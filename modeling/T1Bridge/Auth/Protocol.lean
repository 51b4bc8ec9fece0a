import T1Bridge.Lib.Duration
import T1Bridge.Lib.Ticket

/-! # The fixed broker protocol and its one-operation state

The eight-byte requests and four-byte responses of the authentication broker, the access
policy over kernel peer credentials, and `BrokerState`: at most one active operation, named
by a token from a 64-bit counter.  Cancellation delivery is a caller-supplied effect; here
it is a function on a state `δ` that is passed through, and cancellation is recorded only
when that function reports success.

`startToken`, `cancelToken` and `finishToken` are the only functions that touch the active
operation, and what they do is said once by `startToken_start_iff`, `cancelToken_of_active`
and `finishToken_of_active`. -/

namespace T1Bridge

abbrev Packet := List UInt8

/-- The bytes of an ASCII text. -/
def ascii (text : List Char) : Packet := text.map fun c => c.val.toUInt8

/-! ### Requests and responses -/

def protocolVersion : UInt8 := 1

/-- Maximum sensor match window accepted from a client. -/
def maxMatchTimeoutSecs : ℕ := 30

/-- Outer client allowance for relay handoff and ACM setup before matching. -/
def setupAllowanceSecs : ℕ := 35

def biometricUserId : UInt32 := 501

def rootUid : UInt32 := 0

def requestSize : ℕ := 8

/-- Requests of a direct client. -/
inductive Request where
  | authenticate | approve | enroll | cancel
deriving DecidableEq

/-- The six action bytes of a request packet. -/
def Request.action : Request → Packet
  | authenticate => ascii ['T', '1', 'A', 'U', 'T', 'H']
  | approve => ascii ['T', '1', 'A', 'P', 'R', 'V']
  | enroll => ascii ['T', '1', 'E', 'N', 'R', 'L']
  | cancel => ascii ['T', '1', 'C', 'N', 'C', 'L']

def Request.encode (r : Request) : Packet := r.action ++ [protocolVersion, 10]

/-- Answers to a direct client. -/
inductive Response where
  | okay | denied | busy | failure
deriving DecidableEq

def Response.encode : Response → Packet
  | okay => ascii ['O', 'K', 'A', 'Y']
  | denied => ascii ['D', 'E', 'N', 'Y']
  | busy => ascii ['B', 'U', 'S', 'Y']
  | failure => ascii ['F', 'A', 'I', 'L']

inductive RequestError where
  | wrongLength | wrongTerminator | unsupportedVersion | unsupportedAction
deriving DecidableEq

def decodeRequest (packet : Packet) : Except RequestError Request :=
  if packet.length ≠ requestSize then .error .wrongLength
  else if packet.getD (requestSize - 1) 0 ≠ 10 then .error .wrongTerminator
  else if packet.getD (requestSize - 2) 0 ≠ protocolVersion then .error .unsupportedVersion
  else if packet.take (requestSize - 2) = Request.authenticate.action then .ok .authenticate
  else if packet.take (requestSize - 2) = Request.approve.action then .ok .approve
  else if packet.take (requestSize - 2) = Request.enroll.action then .ok .enroll
  else if packet.take (requestSize - 2) = Request.cancel.action then .ok .cancel
  else .error .unsupportedAction

/-! ### Peers and the access policy -/

inductive PeerAddressFamily where
  | localFamily | internetV6 | netlink | other
deriving DecidableEq

/-- Peer credentials as the transport authenticated them. -/
structure PeerMetadata where
  addressFamily : PeerAddressFamily
  userId : UInt32
  groupId : UInt32

/-- The kernel credential that may cancel whatever operation is active. -/
def PeerMetadata.IsLocalRoot (peer : PeerMetadata) : Prop :=
  peer.addressFamily = .localFamily ∧ peer.userId = rootUid

instance (peer : PeerMetadata) : Decidable peer.IsLocalRoot :=
  inferInstanceAs (Decidable (_ ∧ _))

/-- Policy for the recorded enrollment owner, who is never root. -/
structure AccessPolicy where
  enrollmentOwnerUserId : UInt32
  ne_root : enrollmentOwnerUserId ≠ rootUid

namespace AccessPolicy

variable (policy : AccessPolicy) (peer : PeerMetadata)

def biometricUserFor : Option UInt32 :=
  if peer.addressFamily ≠ .localFamily then none
  else if peer.userId = rootUid ∨ peer.userId = policy.enrollmentOwnerUserId then
    some biometricUserId
  else none

def peerIsAuthorized : Bool :=
  (policy.biometricUserFor peer).isSome

/-- The packet of an authorised peer asks for an operation. -/
def Admits (packet : Packet) : Prop :=
  policy.peerIsAuthorized peer = true ∧
    ∃ request, decodeRequest packet = .ok request ∧ request ≠ .cancel

end AccessPolicy

inductive Purpose where
  | authenticate | approve | enrollment
deriving DecidableEq

/-- A non-root kernel identity proposed as the durable enrollment owner. -/
structure EnrollmentOwnerCandidate where
  userId : UInt32
  ne_root : userId ≠ rootUid
deriving DecidableEq

def EnrollmentOwnerCandidate.new (userId : UInt32) : Option EnrollmentOwnerCandidate :=
  if h : userId = rootUid then none else some ⟨userId, h⟩

/-! ### The broker state -/

/-- The name of an operation, never given twice. -/
structure OperationToken where
  value : UInt64
deriving DecidableEq

/-- An operation that the broker admitted. -/
structure Operation where
  token : OperationToken
  biometricUserId : UInt32
  purpose : Purpose
  enrollmentOwnerCandidate : Option EnrollmentOwnerCandidate
deriving DecidableEq

inductive BrokerDecision where
  | start (operation : Operation)
  | reply (response : Response)

inductive OperationResult where
  | matched | noMatch | cancelled | unavailable | failed
deriving DecidableEq

structure ActiveOperation where
  token : OperationToken
  cancelled : Bool
deriving DecidableEq

/-- The active operation and the next token, 0 when the tokens are used up. -/
structure BrokerState where
  active : Option ActiveOperation := none
  nextToken : UInt64 := 1

/-- The outcome of asking for a token. -/
inductive TokenAdmission where
  | start (token : OperationToken)
  | busy
  | failed

namespace BrokerState

def startToken (s : BrokerState) : TokenAdmission × BrokerState :=
  if s.active.isSome then (.busy, s)
  else if s.nextToken = 0 then (.failed, s)
  else
    (.start ⟨s.nextToken⟩,
      { active := some ⟨⟨s.nextToken⟩, false⟩, nextToken := Ticket.advance s.nextToken })

def startOperation (s : BrokerState) (biometricUserId : UInt32) (purpose : Purpose)
    (enrollmentOwnerCandidate : Option EnrollmentOwnerCandidate) : BrokerDecision × BrokerState :=
  match s.startToken with
  | (.start token, s') =>
    (.start ⟨token, biometricUserId, purpose, enrollmentOwnerCandidate⟩, s')
  | (.busy, s') => (.reply .busy, s')
  | (.failed, s') => (.reply .failure, s')

section Delivery

variable {δ : Type} (deliver : OperationToken → δ → Bool × δ) (s : BrokerState)

/-- Cancels the named active operation when the delivery succeeds. -/
def cancelToken (token : OperationToken) (d : δ) : Bool × BrokerState × δ :=
  match s.active with
  | none => (false, s, d)
  | some active =>
    if active.token ≠ token then (false, s, d)
    else
      match deliver token d with
      | (false, d') => (false, s, d')
      | (true, d') => (true, { s with active := some { active with cancelled := true } }, d')

variable (peer : PeerMetadata)

def cancelForRoot (d : δ) : BrokerDecision × BrokerState × δ :=
  if peer.addressFamily ≠ .localFamily ∨ peer.userId ≠ rootUid then (.reply .denied, s, d)
  else
    match s.active with
    | none => (.reply .denied, s, d)
    | some active =>
      match s.cancelToken deliver active.token d with
      | (true, s', d') => (.reply .okay, s', d')
      | (false, s', d') => (.reply .denied, s', d')

def cancelWithoutOwner (d : δ) : BrokerDecision × BrokerState × δ :=
  s.cancelForRoot deliver peer d

def clientDisconnected (token : OperationToken) (d : δ) : Bool × BrokerState × δ :=
  s.cancelToken deliver token d

/-- Validates one packet and dispatches it: the policy is asked before the bytes are read. -/
def handlePacketWithCancellation
    (policy : AccessPolicy) (packet : Packet) (d : δ) : BrokerDecision × BrokerState × δ :=
  match policy.biometricUserFor peer with
  | none => (.reply .denied, s, d)
  | some user =>
    match decodeRequest packet with
    | .error _ => (.reply .denied, s, d)
    | .ok .cancel => s.cancelForRoot deliver peer d
    | .ok .enroll =>
      if peer.userId = rootUid then (.reply .denied, s, d)
      else
        let (decision, s') := s.startOperation user .enrollment
          (EnrollmentOwnerCandidate.new peer.userId)
        (decision, s', d)
    | .ok .authenticate =>
      let (decision, s') := s.startOperation user .authenticate none
      (decision, s', d)
    | .ok .approve =>
      let (decision, s') := s.startOperation user .approve none
      (decision, s', d)

end Delivery

variable (s : BrokerState)

def enrollWithoutOwner (peer : PeerMetadata) : BrokerDecision × BrokerState :=
  if peer.addressFamily ≠ .localFamily then (.reply .denied, s)
  else
    match EnrollmentOwnerCandidate.new peer.userId with
    | none => (.reply .denied, s)
    | some candidate => s.startOperation T1Bridge.biometricUserId .enrollment (some candidate)

variable (token : OperationToken)

/-- Unknown and stale tokens count as cancelled. -/
def isCancelled : Bool :=
  match s.active with
  | none => true
  | some active => active.token ≠ token || active.cancelled

def finishToken : Option Bool × BrokerState :=
  match s.active with
  | none => (none, s)
  | some active =>
    if active.token ≠ token then (none, s)
    else (some active.cancelled, { s with active := none })

/-- Cancellation always wins a race with a reported match. -/
def finish (result : OperationResult) : Option Response × BrokerState :=
  match s.finishToken token with
  | (none, s') => (none, s')
  | (some cancelled, s') =>
    (some (if !cancelled && result = .matched then .okay else .failure), s')

/-! ### What each broker function can do -/

variable {token} {active : ActiveOperation} {s}

lemma startToken_start_iff {s s' : BrokerState} :
    s.startToken = (.start token, s') ↔ s.active = none ∧ s.nextToken ≠ 0 ∧ token = ⟨s.nextToken⟩ ∧
      s' = { active := some ⟨token, false⟩, nextToken := Ticket.advance s.nextToken } := by
  unfold startToken
  split_ifs with ha hn
  · simp only [Prod.mk.injEq, reduceCtorEq, false_and, false_iff]
    rintro ⟨h, -⟩
    simp [h] at ha
  · simp [hn]
  simp only [Option.not_isSome_iff_eq_none] at ha
  simp only [Prod.mk.injEq, TokenAdmission.start.injEq, ha, ne_eq, hn, not_false_eq_true, true_and]
  constructor
  · rintro ⟨rfl, rfl⟩
    exact ⟨rfl, rfl⟩
  · rintro ⟨rfl, rfl⟩
    exact ⟨rfl, rfl⟩

section Delivery

variable {δ : Type} {deliver : OperationToken → δ → Bool × δ} {peer : PeerMetadata}

lemma cancelToken_of_active {d : δ}
    (h : s.active = some active) : s.cancelToken deliver active.token d =
      ((deliver active.token d).1, if (deliver active.token d).1 then
          { s with active := some { active with cancelled := true } } else s,
        (deliver active.token d).2) := by
  unfold cancelToken
  rw [h]
  rcases hd : deliver active.token d with ⟨_ | _, d'⟩ <;> simp

/-- What a dispatch can do: refuse and change nothing, report a cancellation of the active
operation if `cancels` holds, or start one operation if `admitted` holds. -/
inductive Dispatched (deliver : OperationToken → δ → Bool × δ) (cancels admitted : Prop)
    (s : BrokerState) (d : δ) : BrokerDecision × BrokerState × δ → Prop
  | refused (r : Response) (hr : r ≠ .okay) :
      Dispatched deliver cancels admitted s d (.reply r, s, d)
  | cancelled (active : ActiveOperation) (hactive : s.active = some active) (hcancels : cancels) :
      Dispatched deliver cancels admitted s d
        (.reply (if (s.cancelToken deliver active.token d).1 then .okay else .denied),
          (s.cancelToken deliver active.token d).2)
  | started (operation : Operation) (s' : BrokerState) (hadmitted : admitted)
      (hstart : s.startToken = (.start operation.token, s')) :
      Dispatched deliver cancels admitted s d (.start operation, s', d)

variable {cancels admitted : Prop}

lemma Dispatched.of_start {s' : BrokerState} {d d' : δ} {operation : Operation}
    (h : Dispatched deliver cancels admitted s d (.start operation, s', d')) :
    s.startToken = (.start operation.token, s') ∧ d' = d ∧ admitted := by
  generalize hr : (BrokerDecision.start operation, s', d') = result at h
  cases h with
  | refused => cases hr
  | cancelled => cases hr
  | started _ _ hadmitted hstart =>
    cases hr
    exact ⟨hstart, rfl, hadmitted⟩

lemma startOperation_dispatched (hadmitted : admitted) (user : UInt32)
    (purpose : Purpose) (candidate : Option EnrollmentOwnerCandidate) (d : δ) :
    Dispatched deliver cancels admitted s d ((s.startOperation user purpose candidate).1,
        (s.startOperation user purpose candidate).2, d) := by
  unfold startOperation
  by_cases ha : s.active.isSome
  · simpa [startToken, ha] using Dispatched.refused Response.busy (by decide)
  by_cases hn : s.nextToken = 0
  · simpa [startToken, ha, hn] using Dispatched.refused Response.failure (by decide)
  · simp only [startToken, ha, hn]
    exact .started _ _ hadmitted (by simp [startToken, ha, hn])

lemma cancelForRoot_dispatched (hcancels : peer.IsLocalRoot → cancels) (s : BrokerState) (d : δ) :
    Dispatched deliver cancels admitted s d (s.cancelForRoot deliver peer d) := by
  unfold cancelForRoot
  split_ifs with hp
  · exact .refused _ (by decide)
  simp only [not_or, not_not] at hp
  cases ha : s.active with
  | none => exact .refused _ (by decide)
  | some active =>
    have h : Dispatched deliver cancels admitted s d _ := .cancelled active ha (hcancels hp)
    rcases hc : s.cancelToken deliver active.token d with ⟨_ | _, s', d'⟩ <;> simpa [hc] using h

lemma cancelForRoot_refused (h : ¬ peer.IsLocalRoot ∨ s.active = none) (d : δ) :
    s.cancelForRoot deliver peer d = (.reply .denied, s, d) := by
  unfold cancelForRoot
  split_ifs with hpeer
  · rfl
  rcases h with h | h
  · exact absurd (not_or.mp hpeer) (by simpa [PeerMetadata.IsLocalRoot] using h)
  · rw [h]

lemma handlePacketWithCancellation_refused
    (h : ¬ peer.IsLocalRoot ∨ s.active = none) (policy : AccessPolicy) {packet : Packet}
    (hcancel : decodeRequest packet = .ok .cancel) (d : δ) :
    s.handlePacketWithCancellation deliver peer policy packet d = (.reply .denied, s, d) := by
  unfold handlePacketWithCancellation
  rw [hcancel]
  cases policy.biometricUserFor peer with
  | none => rfl
  | some user => exact cancelForRoot_refused h d

lemma handlePacketWithCancellation_dispatched (s : BrokerState) (peer : PeerMetadata)
    (policy : AccessPolicy) (packet : Packet) (d : δ) :
    Dispatched deliver (decodeRequest packet = .ok .cancel ∧ peer.IsLocalRoot)
      (policy.Admits peer packet) s d
      (s.handlePacketWithCancellation deliver peer policy packet d) := by
  unfold handlePacketWithCancellation
  cases hu : policy.biometricUserFor peer with
  | none => exact .refused _ (by decide)
  | some user =>
    have hp : policy.peerIsAuthorized peer = true := by simp [AccessPolicy.peerIsAuthorized, hu]
    rcases hr : decodeRequest packet with _ | request
    · exact .refused _ (by decide)
    cases request with
    | cancel => exact cancelForRoot_dispatched (fun h => ⟨rfl, h⟩) s d
    | enroll =>
      split_ifs
      · exact .refused _ (by decide)
      · exact startOperation_dispatched ⟨hp, _, hr, by simp⟩ _ _ _ d
    | authenticate | approve => exact startOperation_dispatched ⟨hp, _, hr, by simp⟩ _ _ _ d

lemma enrollWithoutOwner_dispatched (s : BrokerState) (peer : PeerMetadata) (d : δ) :
    Dispatched deliver False (peer.addressFamily = .localFamily ∧ peer.userId ≠ rootUid) s d
      ((s.enrollWithoutOwner peer).1, (s.enrollWithoutOwner peer).2, d) := by
  unfold enrollWithoutOwner EnrollmentOwnerCandidate.new
  split_ifs with hl hr
  · exact .refused _ (by decide)
  · exact .refused _ (by decide)
  · exact startOperation_dispatched ⟨not_not.mp hl, hr⟩ _ _ _ d

end Delivery

lemma finishToken_of_active (h : s.active = some active) :
    s.finishToken active.token = (some active.cancelled, { s with active := none }) := by
  simp [finishToken, h]

end BrokerState

end T1Bridge
