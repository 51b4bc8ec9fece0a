import T1Bridge.Auth.Fingerprint

/-! # Owner-bound standard operations

Authorisation of standard fingerprint operations against the recorded enrollment owner,
on the same `BrokerState` and the same tokens as the fixed protocol, and the check that a
worker's result is of the kind its operation may report.

`StandardAuthority` states the owner rule without reference to the code's order of checks;
**`dispatchStandard_cases`** says that an operation starts only under that rule and that a
refusal leaves the broker as it was. -/

namespace T1Bridge

/-- A non-root account whose asserted name is the canonical one. -/
@[ext] structure ResolvedStandardAccount where
  canonicalUsername : Username
  userId : UInt32
  ne_root : userId ≠ rootUid

instance : DecidableEq ResolvedStandardAccount := fun _ _ =>
  decidable_of_iff _ ResolvedStandardAccount.ext_iff.symm

/-- A standard operation whose account name was looked up. -/
inductive ResolvedStandardOperation where
  | listIdentities
  | enroll (account : ResolvedStandardAccount) (finger : FingerLabel)
  | verify (account : ResolvedStandardAccount) (identity : IdentityId)
  | identify (account : ResolvedStandardAccount)
  | deleteIdentity (account : ResolvedStandardAccount) (identity : IdentityId)
deriving DecidableEq

namespace ResolvedStandardOperation

def targetUserId : ResolvedStandardOperation → Option UInt32
  | listIdentities => none
  | enroll account _ => some account.userId
  | verify account _ => some account.userId
  | identify account => some account.userId
  | deleteIdentity account _ => some account.userId

def kind : ResolvedStandardOperation → OperationKind
  | listIdentities => .listIdentities
  | enroll _ _ => .enroll
  | verify _ _ => .verify
  | identify _ => .identify
  | deleteIdentity _ _ => .deleteIdentity

end ResolvedStandardOperation

/-- On what grounds a peer may start an operation. -/
inductive StandardPeerAuthority where
  | root | recordedOwner | firstOwnerNominee
deriving DecidableEq

/-- One standard operation bound to the broker's active token. -/
structure AuthorizedStandardOperation where
  token : OperationToken
  biometricUserId : UInt32
  targetUserId : Option UInt32
  authority : StandardPeerAuthority
  nominatedFirstOwner : Bool
  operation : ResolvedStandardOperation
deriving DecidableEq

/-- The broker's answer to a standard request. -/
inductive StandardBrokerDecision where
  | start (operation : AuthorizedStandardOperation)
  | reply (message : ServerMessage)

def authorize (peer : PeerMetadata) (recordedOwner : Option AccessPolicy)
    (operation : ResolvedStandardOperation) :
    Option (Option UInt32 × StandardPeerAuthority × Bool) :=
  if peer.addressFamily ≠ .localFamily then none
  else if operation = .listIdentities then
    if peer.userId = rootUid then
      some (recordedOwner.map AccessPolicy.enrollmentOwnerUserId, .root, false)
    else
      match recordedOwner with
      | some owner =>
        if peer.userId = owner.enrollmentOwnerUserId then
          some (some peer.userId, .recordedOwner, false)
        else none
      | none => none
  else
    match operation.targetUserId with
    | none => none
    | some target =>
      if peer.userId ≠ rootUid ∧ peer.userId ≠ target then none
      else
        match recordedOwner with
        | some _ =>
          some (some target, if peer.userId = rootUid then .root else .recordedOwner, false)
        | none =>
          if operation.kind = .enroll then
            some (some target,
              if peer.userId = rootUid then .root else .firstOwnerNominee, true)
          else none

def standardReply (outcome : TerminalOutcome) : StandardBrokerDecision :=
  .reply (.terminal outcome)

def resultIsCompatible (operation : AuthorizedStandardOperation) : ServerMessage → Bool
  | .identityList owner identities =>
    operation.operation.kind = .listIdentities &&
      if identities.isEmpty then owner.isNone
      else owner.isSome && operation.targetUserId.isSome
  | .terminal .cancelled => true
  | .terminal .deviceLost => true
  | .terminal .unsupported => true
  | .terminal .error => true
  | .terminal (.enrolled _) => operation.operation.kind = .enroll
  | .terminal .duplicate => operation.operation.kind = .enroll
  | .terminal .capacityFull => operation.operation.kind = .enroll
  | .terminal (.matched actual) =>
    match operation.operation with
    | .verify _ identity => identity = actual
    | .identify _ => true
    | _ => false
  | .terminal .noMatch =>
    operation.operation.kind = .verify || operation.operation.kind = .identify
  | .terminal .completed => operation.operation.kind = .deleteIdentity
  | .terminal .busy => false
  | .terminal .secondOwner => false
  | .capabilities _ => false
  | .opened => false
  | .enrollProgress _ => false

namespace BrokerState

def dispatchStandard (s : BrokerState) (peer : PeerMetadata)
    (recordedOwner : Option AccessPolicy) (operation : ResolvedStandardOperation) :
    StandardBrokerDecision × BrokerState :=
  match authorize peer recordedOwner operation with
  | none => (standardReply .error, s)
  | some (targetUserId, authority, nominatedFirstOwner) =>
    if recordedOwner.any fun owner =>
        operation.targetUserId.any fun target => target ≠ owner.enrollmentOwnerUserId then
      (standardReply (if operation.kind = .enroll then .secondOwner else .error), s)
    else
      match s.startToken with
      | (.start token, s') =>
        (.start ⟨token, T1Bridge.biometricUserId, targetUserId, authority,
          nominatedFirstOwner, operation⟩, s')
      | (.busy, s') => (standardReply .busy, s')
      | (.failed, s') => (standardReply .error, s')

section Delivery

variable {δ : Type} (deliver : OperationToken → δ → Bool × δ)

def cancelStandard (s : BrokerState) (operation : AuthorizedStandardOperation) (d : δ) :
    Bool × BrokerState × δ :=
  s.cancelToken deliver operation.token d

def standardClientDisconnected (s : BrokerState) (operation : AuthorizedStandardOperation)
    (d : δ) : Bool × BrokerState × δ :=
  s.cancelToken deliver operation.token d

end Delivery

/-- Finalizes one standard token; a delivered cancellation always wins. -/
def finishStandard (s : BrokerState) (operation : AuthorizedStandardOperation)
    (result : ServerMessage) : Option ServerMessage × BrokerState :=
  match s.finishToken operation.token with
  | (none, s') => (none, s')
  | (some true, s') => (some (.terminal .cancelled), s')
  | (some false, s') =>
    (some (if resultIsCompatible operation result then result else .terminal .error), s')

/-! ### What dispatch checks -/

/-- The authority an operation of a peer needs: a listing is for root or the recorded
owner; any other operation is for root or its target account, which must be the recorded
owner, or an enrollment while nobody is recorded. -/
def StandardAuthority (peer : PeerMetadata) (recordedOwner : Option AccessPolicy)
    (operation : ResolvedStandardOperation) : Prop :=
  peer.addressFamily = .localFamily ∧
    match operation.targetUserId with
    | none => peer.userId = rootUid ∨
        ∃ owner, recordedOwner = some owner ∧ peer.userId = owner.enrollmentOwnerUserId
    | some target => (peer.userId = rootUid ∨ peer.userId = target) ∧
        ((∃ owner, recordedOwner = some owner ∧ owner.enrollmentOwnerUserId = target) ∨
          (recordedOwner = none ∧ operation.kind = .enroll))

section Authority

variable {s : BrokerState} {peer : PeerMetadata} {recordedOwner : Option AccessPolicy}
  {operation : ResolvedStandardOperation}

/-- The checks of a dispatch: authority of the peer, then no second owner. -/
lemma standardAuthority_iff : StandardAuthority peer recordedOwner operation ↔
      authorize peer recordedOwner operation ≠ none ∧
      (recordedOwner.any fun owner => operation.targetUserId.any fun target =>
        target ≠ owner.enrollmentOwnerUserId) = false := by
  unfold StandardAuthority authorize
  by_cases hl : peer.addressFamily = .localFamily
  swap
  · simp [hl]
  by_cases hlist : operation = .listIdentities
  · subst hlist
    by_cases hroot : peer.userId = rootUid
    · simp [hroot, ResolvedStandardOperation.targetUserId]
    · cases recordedOwner <;> simp [hroot, ResolvedStandardOperation.targetUserId]
  obtain ⟨target, ht⟩ : ∃ target, operation.targetUserId = some target := by
    cases operation <;> simp_all [ResolvedStandardOperation.targetUserId]
  by_cases hp : peer.userId = rootUid ∨ peer.userId = target
  · have hp' : ¬ (peer.userId ≠ rootUid ∧ peer.userId ≠ target) := by tauto
    cases recordedOwner with
    | none => by_cases hk : operation.kind = .enroll <;> simp [hlist, ht, hp, hp']
    | some owner => simp [hlist, ht, hp, hp', @eq_comm _ target]
  · have hp' : peer.userId ≠ rootUid ∧ peer.userId ≠ target := by tauto
    simp [hlist, ht, hp']

lemma dispatchStandard_of_not_authority (h : ¬ StandardAuthority peer recordedOwner operation) :
    ∃ outcome, (outcome = .error ∨ outcome = .secondOwner) ∧
      s.dispatchStandard peer recordedOwner operation = (standardReply outcome, s) := by
  rw [standardAuthority_iff, not_and] at h
  unfold dispatchStandard
  cases ha : authorize peer recordedOwner operation with
  | none => exact ⟨.error, .inl rfl, rfl⟩
  | some a =>
    have hany := h (by simp [ha])
    by_cases hk : operation.kind = .enroll
    · exact ⟨.secondOwner, .inr rfl, by simp only [hany, hk, if_true]⟩
    · exact ⟨.error, .inl rfl, by simp only [hany, hk, if_true, if_false]⟩

/-- With authority a request is started exactly when a token can be had. -/
lemma dispatchStandard_of_authority (h : StandardAuthority peer recordedOwner operation) :
    (∃ authorized, authorized.operation = operation ∧ s.startToken.1 = .start authorized.token ∧
      s.dispatchStandard peer recordedOwner operation = (.start authorized, s.startToken.2)) ∨
    (∃ outcome, (outcome = .error ∨ outcome = .busy) ∧
      s.dispatchStandard peer recordedOwner operation = (standardReply outcome, s)) := by
  obtain ⟨ha, hany⟩ := standardAuthority_iff.mp h
  obtain ⟨⟨target, authority, nominated⟩, ha⟩ := Option.ne_none_iff_exists'.mp ha
  unfold dispatchStandard
  simp only [ha, hany]
  by_cases hs : s.active.isSome
  · exact .inr ⟨.busy, .inr rfl, by simp [startToken, hs]⟩
  by_cases hn : s.nextToken = 0
  · exact .inr ⟨.error, .inl rfl, by simp [startToken, hs, hn]⟩
  · refine Or.inl ⟨⟨⟨s.nextToken⟩, T1Bridge.biometricUserId, target, authority, nominated,
      operation⟩, rfl, ?_, ?_⟩ <;> simp [startToken, hs, hn]

/-- A dispatch starts only with authority and a fresh token, and otherwise changes nothing. -/
lemma dispatchStandard_cases (s : BrokerState) (peer : PeerMetadata)
    (recordedOwner : Option AccessPolicy) (operation : ResolvedStandardOperation) :
    (∃ outcome, (outcome = .error ∨ outcome = .secondOwner ∨ outcome = .busy) ∧
      s.dispatchStandard peer recordedOwner operation = (standardReply outcome, s)) ∨
    (∃ authorized s', StandardAuthority peer recordedOwner operation ∧
      authorized.operation = operation ∧ s.startToken = (.start authorized.token, s') ∧
      s.dispatchStandard peer recordedOwner operation = (.start authorized, s')) := by
  by_cases h : StandardAuthority peer recordedOwner operation
  · rcases dispatchStandard_of_authority (s := s) h with ⟨authorized, ho, ht, hd⟩ | ⟨o, ho, hd⟩
    · exact .inr ⟨authorized, _, h, ho, Prod.ext ht rfl, hd⟩
    · exact .inl ⟨o, by tauto, hd⟩
  · obtain ⟨o, ho, hd⟩ := dispatchStandard_of_not_authority (s := s) h
    exact .inl ⟨o, by tauto, hd⟩

end Authority

/-! ### Finishing -/

lemma finishStandard_of_active {s : BrokerState} {operation : AuthorizedStandardOperation}
    {active : ActiveOperation} (h : s.active = some active)
    (ht : active.token = operation.token) (result : ServerMessage) :
    s.finishStandard operation result = (some (if active.cancelled then .terminal .cancelled
        else if resultIsCompatible operation result then result else .terminal .error),
        { s with active := none }) := by
  unfold finishStandard
  rw [← ht, finishToken_of_active h]
  cases active.cancelled <;> simp

end BrokerState

end T1Bridge
