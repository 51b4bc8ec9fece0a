import T1Bridge.Auth.Catalog
import T1Bridge.Auth.ConnectionRun

/-! # What standard clients may see and do

The query policy decides what a device match means for a standard client, and the live
worker turns it into the completion of its operation.  The device, the enrollment and the
deletion run outside this model, so their results are fields of `LiveStandardRuntime`.

The result is **`standard_requests_are_authorized`**: who can start which operation, what a
verify, an identify and a listing can name, and that neither a result of the wrong kind nor
a refused request has an effect. -/

namespace T1Bridge

variable {peer : PeerMetadata} {operation : ResolvedStandardOperation} {message : ServerMessage}
  {id : IdentityId}

/-! ### Policy -/

/-- The device's answer; a match names sixteen raw bytes. -/
inductive IdentityMatchOutcome where
  | matched (identifier : List UInt8)
  | noMatch
  | cancelled
  | timedOut
deriving DecidableEq

inductive StandardMatchOutcome where
  | matched (identity : Identity)
  | noMatch
  | cancelled
  | timedOut

inductive QueryPolicyError where
  | requestedIdentityNotLabeled

variable (catalog : StandardIdentityCatalog)

def findLabeled (id : IdentityId) : Option Identity :=
  catalog.labeledIdentities.find? fun identity => identity.id = id

def validateVerifyRequest (requested : IdentityId) : Except QueryPolicyError Identity :=
  match findLabeled catalog requested with
  | some identity => .ok identity
  | none => .error .requestedIdentityNotLabeled

/-- A match of any other identity than the requested one is no match. -/
def evaluateVerify (requested : IdentityId)
    (outcome : IdentityMatchOutcome) : Except QueryPolicyError StandardMatchOutcome := do
  let requestedIdentity ← validateVerifyRequest catalog requested
  return match outcome with
    | .matched identifier =>
      if identifier = requested.bytes then .matched requestedIdentity else .noMatch
    | .noMatch => .noMatch
    | .cancelled => .cancelled
    | .timedOut => .timedOut

/-- A match of an identity without a label is no match. -/
def evaluateIdentify : IdentityMatchOutcome → StandardMatchOutcome
  | .matched identifier =>
    match catalog.labeledIdentities.find? fun identity => identity.id.bytes = identifier with
    | some identity => .matched identity
    | none => .noMatch
  | .noMatch => .noMatch
  | .cancelled => .cancelled
  | .timedOut => .timedOut

section Policy

variable {catalog} {identity : Identity} {requested : IdentityId} {outcome : IdentityMatchOutcome}

lemma validateVerifyRequest_ok (h : validateVerifyRequest catalog requested = .ok identity) :
    identity.id = requested ∧ identity ∈ catalog.labeledIdentities := by
  unfold validateVerifyRequest at h
  split at h
  · next found hfound =>
    cases h
    have hid := List.find?_some hfound
    exact ⟨by simpa using hid, List.mem_of_find?_eq_some hfound⟩
  · cases h

lemma evaluateVerify_matched (h : evaluateVerify catalog requested outcome = .ok (.matched identity)) :
    identity.id = requested ∧ outcome = .matched requested.bytes ∧
      identity ∈ catalog.labeledIdentities := by
  unfold evaluateVerify at h
  cases hv : validateVerifyRequest catalog requested with
  | error => simp [hv] at h
  | ok found =>
    obtain ⟨hid, hmem⟩ := validateVerifyRequest_ok hv
    simp only [hv, bind, Except.bind, pure, Except.pure, Except.ok.injEq] at h
    cases outcome with
    | matched identifier =>
      dsimp only at h
      split_ifs at h with heq
      cases h
      exact ⟨hid, by rw [heq], hmem⟩
    | noMatch | cancelled | timedOut => cases h

lemma evaluateIdentify_matched (h : evaluateIdentify catalog outcome = .matched identity) :
    outcome = .matched identity.id.bytes ∧ identity ∈ catalog.labeledIdentities := by
  unfold evaluateIdentify at h
  cases outcome with
  | matched identifier =>
    dsimp only at h
    split at h
    · next found hfound =>
      cases h
      have hid : identity.id.bytes = identifier := by simpa using List.find?_some hfound
      exact ⟨by rw [hid], List.mem_of_find?_eq_some hfound⟩
    · cases h
  | noMatch | cancelled | timedOut => cases h

end Policy

/-! ### Live worker -/

/-- Failures of the device, as the client is told. -/
inductive LiveStandardFailure where
  | cancelled | capacityFull | deviceLost | duplicate | error

/-- What one worker finds: the committed state, the result of each device operation, and
its cancellation event at the three points where the worker reads it. -/
structure LiveStandardRuntime where
  committed : CommittedStores
  runLiveMatch : Except LiveStandardFailure IdentityMatchOutcome
  runLiveEnroll : Except LiveStandardFailure IdentityId
  runLiveDelete : Except LiveStandardFailure Unit
  cancelledAtStart : Bool
  cancelledBeforeList : Bool
  cancelledAfterList : Bool

def matchMessage (outcome : StandardMatchOutcome) : ServerMessage :=
  .terminal (match outcome with
    | .matched identity => .matched identity.id
    | .noMatch => .noMatch
    | .cancelled => .cancelled
    | .timedOut => .error)

def mapFailure : Except LiveStandardFailure ServerMessage → ServerMessage
  | .ok message => message
  | .error .cancelled => .terminal .cancelled
  | .error .capacityFull => .terminal .capacityFull
  | .error .deviceLost => .terminal .deviceLost
  | .error .duplicate => .terminal .duplicate
  | .error .error => .terminal .error

namespace LiveStandardRuntime

variable (runtime : LiveStandardRuntime) (account : ResolvedStandardAccount)

/-- The requested identity is checked before the device is used and once more after. -/
def runLiveQuery
    (requested : Option IdentityId) : Except LiveStandardFailure StandardMatchOutcome :=
  match runtime.committed.loadCommittedCatalogForAccount account with
  | .error _ => .error .error
  | .ok catalog =>
    match requested with
    | some identity =>
      match validateVerifyRequest catalog identity with
      | .error _ => .error .error
      | .ok _ => do
        let outcome ← runtime.runLiveMatch
        match evaluateVerify catalog identity outcome with
        | .error _ => .error .error
        | .ok outcome => return outcome
    | none => do
      let outcome ← runtime.runLiveMatch
      return evaluateIdentify catalog outcome

def list : ServerMessage :=
  if runtime.cancelledBeforeList then .terminal .cancelled
  else
    match runtime.committed.loadCommittedStandardList with
    | .error _ => .terminal .error
    | .ok list =>
      if runtime.cancelledAfterList then .terminal .cancelled else list.intoServerMessage

def enroll : ServerMessage :=
  mapFailure (runtime.runLiveEnroll.map fun identity => .terminal (.enrolled identity))

def verify (identity : IdentityId) : ServerMessage :=
  mapFailure ((runtime.runLiveQuery account (some identity)).map matchMessage)

def identify : ServerMessage :=
  mapFailure ((runtime.runLiveQuery account none).map matchMessage)

def delete : ServerMessage :=
  mapFailure (runtime.runLiveDelete.map fun _ => .terminal .completed)

def perform : ResolvedStandardOperation → ServerMessage
  | .listIdentities => runtime.list
  | .enroll _ _ => runtime.enroll
  | .verify account identity => runtime.verify account identity
  | .identify account => runtime.identify account
  | .deleteIdentity _ _ => runtime.delete

/-- The completion of one standard worker. -/
def runWithRuntime (active : ActiveStandardOperation) : StandardCompletion :=
  StandardCompletion.new active
    (if runtime.cancelledAtStart then .terminal .cancelled
    else runtime.perform active.operation.operation)

variable {runtime} {account}

/-- Only a matched query becomes a match message. -/
lemma mapFailure_matched {result : Except LiveStandardFailure StandardMatchOutcome}
    (h : mapFailure (result.map matchMessage) = .terminal (.matched id)) :
    ∃ identity, result = .ok (.matched identity) ∧ identity.id = id := by
  cases result with
  | error failure => cases failure <;> simp [Except.map, mapFailure] at h
  | ok outcome =>
    cases outcome with
    | matched identity =>
      simpa [Except.map, mapFailure, matchMessage] using h
    | noMatch | cancelled | timedOut => simp [Except.map, mapFailure, matchMessage] at h

/-- A matched query is a device match of a labelled identity, the requested one if any. -/
lemma runLiveQuery_matched {requested : Option IdentityId} {identity : Identity}
    (h : runtime.runLiveQuery account requested = .ok (.matched identity)) :
    (∀ id ∈ requested, identity.id = id) ∧ runtime.runLiveMatch = .ok (.matched identity.id.bytes) ∧
    ∃ catalog, runtime.committed.loadCommittedCatalogForAccount account = .ok catalog ∧
      identity ∈ catalog.labeledIdentities := by
  unfold runLiveQuery at h
  split at h
  · cases h
  next catalog hcatalog =>
  cases hm : runtime.runLiveMatch with
  | error failure =>
    simp only [hm] at h
    split at h
    · split at h <;> cases h
    · cases h
  | ok outcome =>
    simp only [hm, bind, Except.bind] at h
    split at h
    · split at h
      · cases h
      split at h
      · cases h
      next hv =>
      cases h
      obtain ⟨hid, hout, hmem⟩ := evaluateVerify_matched hv
      refine ⟨by rintro _ ⟨⟩; exact hid, ?_, catalog, hcatalog, hmem⟩
      rw [hout, hid]
    · obtain ⟨hout, hmem⟩ := evaluateIdentify_matched (Except.ok.inj h)
      exact ⟨by rintro _ ⟨⟩, by rw [hout], catalog, hcatalog, hmem⟩

/-- A completion other than an error or a cancellation is what the operation reported. -/
lemma perform_of_result {active : ActiveStandardOperation}
    (h : (runtime.runWithRuntime active).result = message) (herror : message ≠ .terminal .error)
    (hcancelled : message ≠ .terminal .cancelled) :
    runtime.perform active.operation.operation = message := by
  simp only [runWithRuntime, StandardCompletion.new, StandardCompletion.finalResult] at h
  split_ifs at h
  · exact absurd h.symm hcancelled
  · exact absurd h.symm herror
  · exact h
  · exact absurd h.symm herror

/-- The catalog of the account labels the identity. -/
def Shows (runtime : LiveStandardRuntime) (account : ResolvedStandardAccount)
    (id : IdentityId) : Prop :=
  ∃ catalog, runtime.committed.loadCommittedCatalogForAccount account = .ok catalog ∧
    catalog.containsLabeled id = true ∧ ¬ catalog.Hidden id

variable {active : ActiveStandardOperation}

lemma verify_matched {requested : IdentityId}
    (hop : active.operation.operation = .verify account requested)
    (h : (runtime.runWithRuntime active).result = .terminal (.matched id)) :
    id = requested ∧ runtime.runLiveMatch = .ok (.matched requested.bytes) ∧
      runtime.Shows account requested := by
  replace h := perform_of_result h (by simp) (by simp)
  rw [hop] at h
  obtain ⟨identity, hquery, rfl⟩ := mapFailure_matched h
  obtain ⟨hid, hmatch, catalog, hcatalog, hmem⟩ := runLiveQuery_matched hquery
  obtain rfl := hid requested rfl
  exact ⟨rfl, hmatch, catalog, hcatalog, StandardIdentityCatalog.containsLabeled_of_mem hmem⟩

lemma identify_matched (hop : active.operation.operation = .identify account)
    (h : (runtime.runWithRuntime active).result = .terminal (.matched id)) :
    runtime.runLiveMatch = .ok (.matched id.bytes) ∧ runtime.Shows account id := by
  replace h := perform_of_result h (by simp) (by simp)
  rw [hop] at h
  obtain ⟨identity, hquery, rfl⟩ := mapFailure_matched h
  obtain ⟨-, hmatch, catalog, hcatalog, hmem⟩ := runLiveQuery_matched hquery
  exact ⟨hmatch, catalog, hcatalog, StandardIdentityCatalog.containsLabeled_of_mem hmem⟩

lemma list_labeled {owner : Option Username} {identities : List Identity}
    (hop : active.operation.operation = .listIdentities)
    (h : (runtime.runWithRuntime active).result = .identityList owner identities) :
    ∀ identity ∈ identities, ∃ catalog, runtime.committed.catalog? = some catalog ∧
      catalog.containsLabeled identity.id = true ∧ ¬ catalog.Hidden identity.id := by
  replace h := perform_of_result h (by simp) (by simp)
  rw [hop, perform, list] at h
  split at h
  · cases h
  split at h
  · cases h
  next listed hload =>
  split at h
  · cases h
  simp only [CommittedStandardIdentityList.intoServerMessage, ServerMessage.identityList.injEq] at h
  intro identity hmem
  rw [← h.2] at hmem
  rcases CommittedStores.catalog?_of_listed hload with hnil | ⟨catalog, hcatalog, heq⟩
  · rw [hnil] at hmem
    cases hmem
  · rw [heq] at hmem
    exact ⟨catalog, hcatalog, StandardIdentityCatalog.containsLabeled_of_mem hmem⟩

end LiveStandardRuntime

/-! ### Requests and results at the broker -/

/-- The successes that an operation may report. -/
def ResolvedStandardOperation.Accepts (operation : ResolvedStandardOperation) : ServerMessage → Prop
  | .identityList _ _ => operation = .listIdentities
  | .terminal (.enrolled _) => ∃ account finger, operation = .enroll account finger
  | .terminal (.matched id) =>
    (∃ account, operation = .verify account id) ∨ ∃ account, operation = .identify account
  | .terminal .completed => ∃ account id, operation = .deleteIdentity account id
  | _ => False

lemma ResolvedStandardOperation.of_kind (operation : ResolvedStandardOperation) :
    (operation.kind = .listIdentities → operation = .listIdentities) ∧
    (operation.kind = .enroll → ∃ account finger, operation = .enroll account finger) ∧
    (operation.kind = .deleteIdentity → ∃ account id, operation = .deleteIdentity account id) := by
  cases operation <;> simp [kind]

lemma accepts_of_compatible {operation : AuthorizedStandardOperation}
    (hc : resultIsCompatible operation message = true) (hs : message.IsSuccess) :
    operation.operation.Accepts message := by
  obtain ⟨hlist, henroll, hdelete⟩ := operation.operation.of_kind
  unfold ServerMessage.IsSuccess at hs
  split at hs
  · simp only [resultIsCompatible, Bool.and_eq_true, decide_eq_true_eq] at hc
    exact hlist hc.1
  · exact hdelete (of_decide_eq_true hc)
  · exact henroll (of_decide_eq_true hc)
  · simp only [resultIsCompatible] at hc
    split at hc
    · next account identity hop =>
      have hid := of_decide_eq_true hc
      exact .inl ⟨account, hid ▸ hop⟩
    · next account hop => exact .inr ⟨account, hop⟩
    · cases hc
  · exact hs.elim

section Requests

variable {w : Service.State} {running : Option Running} {now : Duration}
  {recordedOwner : Option AccessPolicy}

/-- A successful finish passes on the worker's own result, which is of the right kind. -/
lemma finishStandard_success (hcons : Service.Consistent w running)
    {h : ScheduledStandardOperation} (hk : w.Known (.standard h)) {completion : StandardCompletion}
    (hm : (w.step (.finishStandard h completion now)).1 = .message message) (hs : message.IsSuccess) :
    message = completion.result ∧ h.operation.operation.operation.Accepts message := by
  obtain ⟨running', heff⟩ := Service.step_effect (c := .finishStandard h completion now) hcons
    (by rintro _ ⟨⟩; exact hk)
  rw [hm] at heff
  have hsuccess : (Service.Answer.message message).IsSuccess := by
    constructor <;> rintro rfl <;> exact hs
  obtain ⟨r, h', -, hh', -, -, hanswer⟩ := heff.finished_of_isSuccess hsuccess
  have hm' := Service.Answer.message.inj hanswer
  unfold Session.standardResponse at hm'
  split_ifs at hm' with hcancelled hcompatible
  · rw [hm'] at hs
    exact hs.elim
  · rw [← hm'] at hcompatible
    exact ⟨hm', accepts_of_compatible hcompatible hs⟩
  · rw [hm'] at hs
    exact hs.elim

/-- A start at the broker is for the offered operation and under its authority. -/
lemma dispatchStandard_start (hrep : w.service.Represents running)
    {scheduled : ScheduledStandardOperation}
    (h : (w.service.dispatchStandard peer recordedOwner operation now).1 = .start scheduled) :
    scheduled.operation.operation.operation = operation ∧
      BrokerState.StandardAuthority peer recordedOwner operation := by
  have hd := BrokerServiceScheduler.dispatchStandard_dispatched hrep peer recordedOwner
    operation now
  generalize w.service.dispatchStandard peer recordedOwner operation now = result at hd h
  cases hd with
  | started authorized deadline hauthority hoperation =>
    cases h
    exact ⟨hoperation, hauthority⟩
  | poisoned | refused | exhausted => cases h

lemma dispatchStandard_refused {s : BrokerServiceScheduler}
    (h : ¬ BrokerState.StandardAuthority peer recordedOwner operation) (now : Duration) :
    (∃ decision, (decision = .terminate ∨ decision = .reply (.terminal .error) ∨
      decision = .reply (.terminal .secondOwner)) ∧
      s.dispatchStandard peer recordedOwner operation now = (decision, s)) := by
  unfold BrokerServiceScheduler.dispatchStandard
  split_ifs
  · exact ⟨.terminate, .inl rfl, rfl⟩
  obtain ⟨outcome, houtcome, hd⟩ := BrokerState.dispatchStandard_of_not_authority
    (s := s.coordinator.state) h
  simp only [BrokerSessionCoordinator.dispatchStandard, hd]
  refine ⟨.reply (.terminal outcome), .inr ?_, rfl⟩
  rcases houtcome with rfl | rfl
  · exact .inl rfl
  · exact .inr rfl

/-- A start on a connection is for the operation that its packet names. -/
lemma dispatchPacketWith_start (hrep : w.service.Represents running) {conn : StandardConnection}
    {packet : Packet} {resolve : Resolve} {job : StandardWorkerJob}
    (h : (conn.dispatchPacketWith w.service recordedOwner packet now resolve).1 = .start job) :
    ∃ message operation, decodeClient packet = .ok message ∧
      resolveOperation resolve message = .ok operation ∧
      job.operation.operation.operation = operation ∧
      BrokerState.StandardAuthority conn.peer recordedOwner operation := by
  have hp := StandardConnection.dispatchPacketWith_packeted conn w.service recordedOwner packet
    now resolve
  generalize conn.dispatchPacketWith w.service recordedOwner packet now resolve = result at hp h
  cases hp with
  | malformed | cancelled | busy | immediate | opened => cases h
  | dispatched _ _ message hdecode operation hresolve =>
    cases hd : (w.service.dispatchStandard conn.peer recordedOwner operation now).1 with
    | start scheduled =>
      obtain ⟨hoperation, hauthority⟩ := dispatchStandard_start hrep hd
      rw [hd] at h
      cases h
      exact ⟨message, operation, hdecode, hresolve, hoperation, hauthority⟩
    | reply | terminate =>
      rw [hd] at h
      cases h

end Requests

/-- **Standard requests are authorised.**  In every reachable state of the service:

* a packet starts an operation only for a peer with the authority for it;
* a request without that authority is refused, and the service is as before;
* a worker answers a verify with a match only if the device matched exactly the requested
  identity and the catalog labels it, and an identify or a listing names only labelled
  identities, never a hidden one;
* a finished operation succeeds only with its worker's own result of the right kind. -/
theorem standard_requests_are_authorized {w : Service.State} (hw : Service.broker.Reachable w) :
    (∀ conn recordedOwner packet now resolve job,
      (StandardConnection.dispatchPacketWith conn w.service recordedOwner packet now resolve).1 =
        .start job → ∃ message operation, decodeClient packet = .ok message ∧
        resolveOperation resolve message = .ok operation ∧
        job.operation.operation.operation = operation ∧
        BrokerState.StandardAuthority conn.peer recordedOwner operation) ∧
    (∀ peer recordedOwner operation now,
      ¬ BrokerState.StandardAuthority peer recordedOwner operation →
      (∃ decision, (decision = .terminate ∨ decision = .reply (.terminal .error) ∨
        decision = .reply (.terminal .secondOwner)) ∧
        w.service.dispatchStandard peer recordedOwner operation now = (decision, w.service))) ∧
    (∀ (runtime : LiveStandardRuntime) (active : ActiveStandardOperation),
      (∀ account requested id, active.operation.operation = .verify account requested →
        (runtime.runWithRuntime active).result = .terminal (.matched id) →
        id = requested ∧ runtime.runLiveMatch = .ok (.matched requested.bytes) ∧
          runtime.Shows account requested) ∧
      (∀ account id, active.operation.operation = .identify account →
        (runtime.runWithRuntime active).result = .terminal (.matched id) →
        runtime.runLiveMatch = .ok (.matched id.bytes) ∧ runtime.Shows account id) ∧
      (∀ owner identities, active.operation.operation = .listIdentities →
        (runtime.runWithRuntime active).result = .identityList owner identities →
        ∀ identity ∈ identities, ∃ catalog, runtime.committed.catalog? = some catalog ∧
          catalog.containsLabeled identity.id = true ∧ ¬ catalog.Hidden identity.id)) ∧
    (∀ h completion now message, w.Known (.standard h) →
      (w.step (.finishStandard h completion now)).1 = .message message → message.IsSuccess →
      message = completion.result ∧ h.operation.operation.operation.Accepts message) := by
  obtain ⟨running, hcons⟩ := Service.consistent_of_reachable hw
  refine ⟨?_, ?_, ?_, ?_⟩
  · intro conn recordedOwner packet now resolve job h
    exact dispatchPacketWith_start hcons.represents h
  · intro peer recordedOwner operation now h
    exact dispatchStandard_refused h now
  · intro runtime active
    exact ⟨fun _ _ _ => LiveStandardRuntime.verify_matched,
      fun _ _ => LiveStandardRuntime.identify_matched,
      fun _ _ => LiveStandardRuntime.list_labeled⟩
  · intro h completion now message hk hm hs
    exact finishStandard_success hcons hk hm hs

/-- A stranger asks an idle service for a listing. -/
theorem standard_requests_are_authorized_stranger :
    ¬ BrokerState.StandardAuthority ⟨.localFamily, 1001, 1001⟩ (some Service.ownerPolicy)
      .listIdentities ∧ ∃ decision, (decision = .terminate ∨ decision = .reply (.terminal .error) ∨
      decision = .reply (.terminal .secondOwner)) ∧
      Service.idleState.service.dispatchStandard ⟨.localFamily, 1001, 1001⟩
        (some Service.ownerPolicy) .listIdentities (.ofSecs 0) =
        (decision, Service.idleState.service) := by
  have hstranger : ¬ BrokerState.StandardAuthority ⟨.localFamily, 1001, 1001⟩
      (some Service.ownerPolicy) .listIdentities := by
    rw [BrokerState.standardAuthority_iff]
    decide
  exact ⟨hstranger, (standard_requests_are_authorized
    ⟨_, _, Service.idleState_init, .nil _⟩).2.1 _ _ _ _ hstranger⟩

end T1Bridge
