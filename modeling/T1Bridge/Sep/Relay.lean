import T1Bridge.Auth.Protocol
import T1Bridge.Lib.Bytes
import T1Bridge.Lib.Except

/-! # The relay

One transfer is a buffer of fixed size: the data of a request, then a message with its header.
The builders reserve an identity for each transfer that goes out; a transfer that comes in is
parsed and compared with the identity of the request that is pending. -/

namespace T1Bridge.Sep.Relay

open List (append_assoc length_append)
open Except (of_bind_ok of_ite_error_ok)

def bufferSize : ℕ := 0x4400
def dataCapacity : ℕ := 0x4000
def messageOffset : ℕ := 0x4000
def v2HeaderSize : ℕ := 0xb4
def messageCapacity : ℕ := 0x80
def endpointCount : ℕ := 10
def controlEndpoint : UInt32 := 0xffffffff
def acmEndpoint : UInt32 := 1
def keystoreEndpoint : UInt32 := 3
def wireVersion : UInt8 := 2
def defaultSkipLimit : ℕ := 4

def messageIndexOffset : ℕ := 0x88
def replyTokenOffset : ℕ := 0x8c
def requestTokenOffset : ℕ := 0x98
def messageLengthOffset : ℕ := 0xa4
def dataLengthOffset : ℕ := 0xa8
def acmHeaderSize : ℕ := 10
def keystoreHeaderSize : ℕ := 8

inductive Error where
  | argument | truncated | length | version | endpoint | selector | state | exhausted | skipLimit
deriving DecidableEq

inductive RequestKind where
  | control | keystore | acm
deriving DecidableEq

/-- How a message relates to the awaited reply. -/
inductive MessageClass where
  | expectedReply | control | keystoreReply | keystoreNotification | keystoreRequest | acm | other
deriving DecidableEq

/-- The counters of the relay and what is known of its endpoints. -/
structure State where
  nextToken : UInt64
  nextMessageIndex : UInt32
  localEndpointStates : List UInt8
  peerEndpointStates : List UInt8
  peerEndpointCount : UInt8
  versionConfirmed : Bool
  endpointStatusConfirmed : Bool
  tokenExhausted : Bool
  messageIndexExhausted : Bool
deriving DecidableEq

/-- What a reply has to match. -/
structure Pending where
  kind : RequestKind
  token : UInt64
  messageIndex : UInt32
  endpoint : UInt32
  selector : UInt8
  transaction : UInt8
deriving DecidableEq

/-- The two pointers are the whole transfer and its part from the message on. -/
structure Message where
  data : Packet
  message : Packet
  transferLength : ℕ
  replyToken : ℕ
  requestToken : ℕ
  endpoint : UInt32
  messageIndex : ℕ
  messageLength : ℕ
  dataLength : ℕ
  version : UInt8

/-- A request with the messages that were skipped for it. -/
structure Waiter where
  pending : Pending
  skipped : ℕ
  skipLimit : ℕ

/-! ### Identities -/

variable (s : State)

/-- A token is spent; the last one exhausts them. -/
def State.spendToken : State :=
  if s.nextToken = 0xffffffffffffffff then { s with tokenExhausted := true }
  else { s with nextToken := s.nextToken + 1 }

def State.spendMessageIndex : State :=
  if s.nextMessageIndex = 0xffffffff then { s with messageIndexExhausted := true }
  else { s with nextMessageIndex := s.nextMessageIndex + 1 }

def reserveIdentity (kind : RequestKind) (endpoint : UInt32)
    (selector transaction : UInt8) : Except Error (Pending × State) :=
  if s.tokenExhausted ∨ s.messageIndexExhausted then .error .exhausted
  else .ok (⟨kind, s.nextToken, s.nextMessageIndex, endpoint, selector, transaction⟩,
    s.spendToken.spendMessageIndex)

/-- `build_header` with the data and the message copied in. -/
def buildTransfer (identity : Pending) (message data : Packet) : Packet :=
  (padTo dataCapacity data ++ [wireVersion, 0, 0, 0] ++ leBytes 4 identity.endpoint.toNat ++
      padTo messageCapacity message ++ leBytes 4 identity.messageIndex.toNat ++
      List.replicate 12 0) ++
    leBytes 8 identity.token.toNat ++
    (leBytes 4 1 ++ leBytes 4 message.length ++ leBytes 4 data.length ++
      List.replicate (bufferSize - messageOffset - 0xac) 0)

def buildControl (payload : Packet) : Except Error (Packet × Pending × State) :=
  if payload.length = 0 ∨ payload.length > messageCapacity then .error .argument
  else do
    let (pending, s) ← reserveIdentity s .control controlEndpoint (byteAt 0 payload) 0
    pure (buildTransfer pending payload [], pending, s)

/-! ### Control messages -/

def buildGetVersion : Except Error (Packet × Pending × State) :=
  if s.versionConfirmed then .error .state else buildControl s [1]

variable (m : Message) (pending : Pending)

def pendingMatchesHeader : Except Error Unit :=
  if m.version ≠ wireVersion then .error .version
  else if m.endpoint ≠ pending.endpoint then .error .endpoint
  else .ok ()

def acceptVersion : Except Error State :=
  if s.versionConfirmed ∨ pending.kind ≠ .control ∨ pending.selector ≠ 1 then .error .state
  else do
    pendingMatchesHeader m pending
    if m.messageLength < 1 ∨ byteAt 8 m.message ≠ 1 then .error .selector
    else pure { s with versionConfirmed := true }

def buildEndpointStatus : Except Error (Packet × Pending × State) :=
  if s.versionConfirmed = false ∨ s.endpointStatusConfirmed then .error .state
  else buildControl s ([6, UInt8.ofNat endpointCount] ++ s.localEndpointStates)

def acceptEndpointStatus : Except Error State :=
  if s.versionConfirmed = false ∨ s.endpointStatusConfirmed ∨ pending.kind ≠ .control ∨
      pending.selector ≠ 6 then .error .state
  else do
    pendingMatchesHeader m pending
    if m.messageLength < 2 ∨ byteAt 8 m.message ≠ 6 then .error .selector
    else if (byteAt 9 m.message).toNat > endpointCount ∨
        m.messageLength ≠ (byteAt 9 m.message).toNat + 2 then .error .length
    else pure { s with
      peerEndpointStates :=
        padTo endpointCount ((m.message.drop 10).take (byteAt 9 m.message).toNat)
      peerEndpointCount := byteAt 9 m.message
      endpointStatusConfirmed := true }

def buildEndpointEnable (endpoint : UInt32) (enabled : Bool) :
    Except Error (Packet × Pending × State) :=
  if s.endpointStatusConfirmed = false then .error .state
  else if endpoint.toNat ≥ endpointCount then .error .endpoint
  else do
    let (output, identity, s) ← buildControl s
      ([2] ++ leBytes 4 endpoint.toNat ++ leBytes 4 enabled.toNat)
    pure (output, identity, { s with
      localEndpointStates := s.localEndpointStates.set endpoint.toNat enabled.toUInt8 })

/-- The acknowledgement of a completed request keeps its message index. -/
def buildEndpointReady (endpoint : UInt32) (completed : Pending) :
    Except Error (Packet × Pending × State) :=
  if completed.token = 0 then .error .argument
  else if s.endpointStatusConfirmed = false then .error .state
  else if endpoint.toNat ≥ endpointCount ∨ completed.endpoint ≠ endpoint then .error .endpoint
  else if completed.messageIndex &&& 0x80000000 ≠ 0 ∨ s.tokenExhausted then .error .exhausted
  else
    let identity : Pending :=
      ⟨.control, s.nextToken, completed.messageIndex ||| 0x80000000, controlEndpoint, 4, 0⟩
    .ok (buildTransfer identity ([4] ++ leBytes 4 endpoint.toNat ++ leBytes 4 1) [], identity,
      { s.spendToken with
        localEndpointStates := s.spendToken.localEndpointStates.set endpoint.toNat 1 })

/-! ### Requests -/

def buildKeystoreRequest (request : Packet) (selector transaction : UInt8) :
    Except Error (Packet × Pending × State) :=
  if s.endpointStatusConfirmed = false ∨ request.length = 0 ∨ request.length > dataCapacity ∨
      request.length > 0xffff ∨ selector ≥ 0x80 then .error .argument
  else do
    let (pending, s) ← reserveIdentity s .keystore keystoreEndpoint selector transaction
    pure (buildTransfer pending
      ([0, selector, transaction, 0, 0, 0] ++ leBytes 2 request.length) request, pending, s)

def buildAcmRequest (command : Packet) (requestSelector : UInt8) :
    Except Error (Packet × Pending × State) :=
  if s.endpointStatusConfirmed = false ∨ command.length < 8 ∨ command.length > dataCapacity then
    .error .argument
  else do
    let (pending, s) ← reserveIdentity s .acm acmEndpoint requestSelector 0
    pure (buildTransfer pending
      ([1, requestSelector] ++ leBytes 4 command.length ++ leBytes 4 0) command, pending, s)

/-! ### Incoming transfers -/

def parse (transfer : Packet) (transferLength : ℕ) : Except Error Message :=
  if transferLength < messageOffset + v2HeaderSize then .error .truncated
  else if transferLength > bufferSize then .error .length
  else
    let header := transfer.drop messageOffset
    if byteAt 0 header ≠ wireVersion then .error .version
    else
      let m : Message := {
        data := transfer
        message := header
        transferLength := transferLength
        version := byteAt 0 header
        endpoint := UInt32.ofNat (wordAt 4 4 header)
        messageIndex := wordAt 4 messageIndexOffset header
        replyToken := wordAt 8 replyTokenOffset header
        requestToken := wordAt 8 requestTokenOffset header
        messageLength := wordAt 4 messageLengthOffset header
        dataLength := wordAt 4 dataLengthOffset header }
      if m.messageLength > messageCapacity ∨ m.dataLength > dataCapacity then .error .length
      else .ok m

def classify : MessageClass :=
  if m.endpoint = controlEndpoint then .control
  else if m.endpoint = keystoreEndpoint ∧ m.messageLength ≥ keystoreHeaderSize then
    if byteAt 9 m.message &&& 0x80 ≠ 0 then .keystoreReply
    else if m.messageLength = keystoreHeaderSize ∧ m.dataLength = 0 then .keystoreNotification
    else .keystoreRequest
  else if m.endpoint = acmEndpoint ∧ m.messageLength ≥ acmHeaderSize then .acm
  else .other

/-- Success stands for a match.  Tokens are not compared: live replies carry none. -/
def matchesPending : Except Error Unit := do
  pendingMatchesHeader m pending
  match pending.kind with
  | .control =>
    if m.messageLength < 1 ∨ byteAt 8 m.message ≠ pending.selector then .error .selector
    else pure ()
  | .keystore =>
    if m.messageLength < keystoreHeaderSize ∨ byteAt 9 m.message ≠ pending.selector ||| 0x80 ∨
        byteAt 10 m.message ≠ pending.transaction then .error .selector
    else pure ()
  | .acm =>
    if m.messageLength < acmHeaderSize ∨ byteAt 9 m.message ≠ pending.selector then
      .error .selector
    else pure ()

def waiterInit (skipLimit : ℕ) : Except Error Waiter :=
  if pending.token = 0 ∨ skipLimit = 0 then .error .argument else .ok ⟨pending, 0, skipLimit⟩

/-- The awaited reply, or a message that is skipped. -/
inductive Consumed where
  | matched (m : Message)
  | skipped (classification : MessageClass) (w : Waiter)

def waiterConsume (w : Waiter) (transfer : Packet) (transferLength : ℕ) :
    Except Error Consumed := do
  let m ← parse transfer transferLength
  match matchesPending m w.pending with
  | .ok () => pure (.matched m)
  | .error _ =>
    if w.skipped + 1 ≥ w.skipLimit then .error .skipLimit
    else pure (.skipped (classify m) { w with skipped := w.skipped + 1 })

/-! ### What a transfer says on the wire -/

/-- The identity that an outgoing transfer carries. -/
def identityOf (transfer : Packet) : Pending :=
  let header := transfer.drop messageOffset
  let endpoint := UInt32.ofNat (wordAt 4 4 header)
  { kind := if endpoint = controlEndpoint then .control
      else if endpoint = keystoreEndpoint then .keystore else .acm
    token := UInt64.ofNat (wordAt 8 requestTokenOffset header)
    messageIndex := UInt32.ofNat (wordAt 4 messageIndexOffset header)
    endpoint := endpoint
    selector := if endpoint = controlEndpoint then byteAt 8 header else byteAt 9 header
    transaction := if endpoint = keystoreEndpoint then byteAt 10 header else 0 }

/-- The transfer that came in replies to the one that went out. -/
def Answers (request reply : Packet) : Prop :=
  ∃ m, parse reply bufferSize = .ok m ∧ matchesPending m (identityOf request) = .ok ()

instance (request reply : Packet) : Decidable (Answers request reply) :=
  match h : parse reply bufferSize with
  | .error _ => isFalse fun ⟨_, hm, _⟩ => nomatch h.symm.trans hm
  | .ok m =>
    if hm : matchesPending m (identityOf request) = .ok () then isTrue ⟨m, h, hm⟩
    else isFalse fun ⟨_, hm', hmatch⟩ => hm (Except.ok.inj (h.symm.trans hm') ▸ hmatch)

/-- How many tokens were spent, counted from zero. -/
def State.bound : ℕ :=
  if s.tokenExhausted then s.nextToken.toNat + 1 else s.nextToken.toNat

variable {s} {s' : State} {pending} {m} {output message data : Packet}

lemma spendToken_bound (h : s.tokenExhausted = false) :
    s.spendToken.bound = s.nextToken.toNat + 1 := by
  unfold State.spendToken State.bound
  by_cases hmax : s.nextToken = 0xffffffffffffffff
  · simp [hmax]
  have hlt : s.nextToken.toNat + 1 < 2 ^ 64 := by
    have hne : s.nextToken.toNat ≠ 0xffffffffffffffff := fun heq =>
      hmax (UInt64.toNat_inj.mp heq)
    have := s.nextToken.toNat_lt
    omega
  simp only [hmax, if_false, h, Bool.false_eq_true]
  rw [UInt64.toNat_add, UInt64.toNat_one, Nat.mod_eq_of_lt hlt]

lemma spendMessageIndex_bound (s : State) : s.spendMessageIndex.bound = s.bound := by
  unfold State.spendMessageIndex
  split <;> rfl

section

variable (hdata : data.length ≤ dataCapacity)

include hdata

/-- The parts of a built transfer have the sizes that put each field in its place. -/
lemma drop_buildTransfer : (buildTransfer pending message data).drop messageOffset =
      [wireVersion, 0, 0, 0] ++ leBytes 4 pending.endpoint.toNat ++ padTo messageCapacity message ++
        leBytes 4 pending.messageIndex.toNat ++ List.replicate 12 0 ++
        leBytes 8 pending.token.toNat ++
        (leBytes 4 1 ++ leBytes 4 message.length ++ leBytes 4 data.length ++
          List.replicate (bufferSize - messageOffset - 0xac) 0) := by
  unfold buildTransfer
  simp only [append_assoc]
  exact List.drop_left' (length_padTo hdata)

/-- The message names the identity, in the place that its kind has for it. -/
inductive Fits : Pending → Packet → Prop
  | control (token : UInt64) (messageIndex : UInt32) (selector : UInt8) (rest : Packet) :
      Fits ⟨.control, token, messageIndex, controlEndpoint, selector, 0⟩ (selector :: rest)
  | keystore (token : UInt64) (messageIndex : UInt32) (first selector transaction : UInt8)
      (rest : Packet) :
      Fits ⟨.keystore, token, messageIndex, keystoreEndpoint, selector, transaction⟩
        (first :: selector :: transaction :: rest)
  | acm (token : UInt64) (messageIndex : UInt32) (first selector : UInt8) (rest : Packet) :
      Fits ⟨.acm, token, messageIndex, acmEndpoint, selector, 0⟩ (first :: selector :: rest)

lemma endpoint_buildTransfer :
    wordAt 4 4 ((buildTransfer pending message data).drop messageOffset) =
      pending.endpoint.toNat := by
  rw [drop_buildTransfer hdata]
  simp only [append_assoc]
  rw [← append_assoc]
  exact wordAt_append _ rfl pending.endpoint.toNat_lt

variable (hmessage : message.length ≤ messageCapacity)

include hmessage

lemma messageIndex_buildTransfer :
    wordAt 4 messageIndexOffset ((buildTransfer pending message data).drop messageOffset) =
      pending.messageIndex.toNat := by
  rw [drop_buildTransfer hdata, append_assoc, append_assoc]
  refine wordAt_append _ ?_ pending.messageIndex.toNat_lt
  simp only [length_append, length_padTo hmessage]
  rfl

lemma token_buildTransfer :
    wordAt 8 requestTokenOffset ((buildTransfer pending message data).drop messageOffset) =
      pending.token.toNat := by
  rw [drop_buildTransfer hdata]
  refine wordAt_append _ ?_ pending.token.toNat_lt
  simp only [length_append, length_padTo hmessage]
  rfl

end

lemma byte_buildTransfer (pending : Pending) (hdata : data.length ≤ dataCapacity) {i : ℕ}
    (hi : i < message.length) :
    byteAt (8 + i) ((buildTransfer pending message data).drop messageOffset) =
      byteAt i message := by
  rw [drop_buildTransfer hdata]
  simp only [append_assoc, padTo]
  rw [← append_assoc, byteAt_append_right _ (by simp), byteAt_append_left _ (by simpa using hi)]
  simp

lemma identityOf_buildTransfer (hdata : data.length ≤ dataCapacity)
    (hmessage : message.length ≤ messageCapacity) (h : Fits pending message) :
    identityOf (buildTransfer pending message data) = pending := by
  have hbyte := @byte_buildTransfer message data pending hdata
  unfold identityOf
  simp only [endpoint_buildTransfer hdata, messageIndex_buildTransfer hdata hmessage,
    token_buildTransfer hdata hmessage, UInt32.ofNat_toNat, UInt64.ofNat_toNat]
  cases h with
  | control token messageIndex selector rest =>
    have hzero := @hbyte 0 (Nat.succ_pos _)
    simp only [hzero]
    rfl
  | keystore token messageIndex first selector transaction rest =>
    have hone := @hbyte 1 (Nat.succ_lt_succ (Nat.succ_pos _))
    have htwo := @hbyte 2 (Nat.succ_lt_succ (Nat.succ_lt_succ (Nat.succ_pos _)))
    simp only [hone, htwo]
    rfl
  | acm token messageIndex first selector rest =>
    have hone := @hbyte 1 (Nat.succ_lt_succ (Nat.succ_pos _))
    simp only [hone]
    rfl

/-! ### What the builders spend -/

/-- A built transfer carries an identity with the next token, and that token is spent. -/
structure Spends (s : State) (output : Packet) (pending : Pending) (s' : State) : Prop where
  identity : identityOf output = pending
  token : pending.token.toNat = s.bound
  bound : s'.bound = s.bound + 1

variable {endpoint : UInt32} {selector transaction : UInt8} {transfer : Packet}

lemma bound_of_fresh (h : s.tokenExhausted = false) : s.bound = s.nextToken.toNat := by
  unfold State.bound
  rw [h]
  rfl

/-- A transfer under a reserved identity spends the next token. -/
lemma Spends.of_reserve {kind : RequestKind}
    (h : reserveIdentity s kind endpoint selector transaction = .ok (pending, s'))
    (hdata : data.length ≤ dataCapacity) (hmessage : message.length ≤ messageCapacity)
    (hfits : Fits ⟨kind, s.nextToken, s.nextMessageIndex, endpoint, selector, transaction⟩ message) :
    Spends s (buildTransfer pending message data) pending s' := by
  obtain ⟨hfresh, h⟩ := of_ite_error_ok h
  rw [not_or, Bool.not_eq_true] at hfresh
  cases h
  refine ⟨identityOf_buildTransfer hdata hmessage hfits, (bound_of_fresh hfresh.1).symm, ?_⟩
  rw [spendMessageIndex_bound, spendToken_bound hfresh.1, bound_of_fresh hfresh.1]

lemma buildControl_spends {payload : Packet}
    (h : buildControl s payload = .ok (output, pending, s')) : Spends s output pending s' := by
  obtain ⟨hlength, h⟩ := of_ite_error_ok h
  rw [not_or, Nat.not_lt] at hlength
  obtain ⟨⟨identity, s1⟩, hreserve, h⟩ := of_bind_ok h
  cases h
  cases payload with
  | nil => exact (hlength.1 rfl).elim
  | cons selector rest => exact .of_reserve hreserve (Nat.zero_le _) hlength.2 (Fits.control _ _ _ _)

lemma buildEndpointEnable_spends {enabled : Bool}
    (h : buildEndpointEnable s endpoint enabled = .ok (output, pending, s')) :
    Spends s output pending s' := by
  obtain ⟨-, h⟩ := of_ite_error_ok h
  obtain ⟨-, h⟩ := of_ite_error_ok h
  obtain ⟨built, hcontrol, h⟩ := of_bind_ok h
  cases h
  have hspends := buildControl_spends hcontrol
  exact ⟨hspends.identity, hspends.token, hspends.bound⟩

lemma buildEndpointReady_spends {completed : Pending}
    (h : buildEndpointReady s endpoint completed = .ok (output, pending, s')) :
    Spends s output pending s' := by
  obtain ⟨-, h⟩ := of_ite_error_ok h
  obtain ⟨-, h⟩ := of_ite_error_ok h
  obtain ⟨-, h⟩ := of_ite_error_ok h
  obtain ⟨hfresh, h⟩ := of_ite_error_ok h
  rw [not_or, Bool.not_eq_true] at hfresh
  cases h
  refine ⟨?_, (bound_of_fresh hfresh.2).symm, ?_⟩
  · refine identityOf_buildTransfer (Nat.zero_le _) ?_ (Fits.control _ _ _ _)
    simp [messageCapacity]
  · rw [bound_of_fresh hfresh.2, ← spendToken_bound hfresh.2]
    rfl

lemma buildKeystoreRequest_spends {request : Packet}
    (h : buildKeystoreRequest s request selector transaction = .ok (output, pending, s')) :
    Spends s output pending s' ∧
      pending = ⟨.keystore, s.nextToken, s.nextMessageIndex, keystoreEndpoint, selector,
        transaction⟩ := by
  obtain ⟨hbounds, h⟩ := of_ite_error_ok h
  have hdata : request.length ≤ dataCapacity := by
    by_contra hlong
    exact hbounds (.inr (.inr (.inl (Nat.lt_of_not_le hlong))))
  obtain ⟨⟨identity, s1⟩, hreserve, h⟩ := of_bind_ok h
  cases h
  refine ⟨.of_reserve hreserve hdata (by simp [messageCapacity]) (Fits.keystore _ _ _ _ _ _), ?_⟩
  cases (of_ite_error_ok hreserve).2
  rfl

lemma buildAcmRequest_spends {command : Packet}
    (h : buildAcmRequest s command selector = .ok (output, pending, s')) :
    Spends s output pending s' ∧
      pending = ⟨.acm, s.nextToken, s.nextMessageIndex, acmEndpoint, selector, 0⟩ := by
  obtain ⟨hbounds, h⟩ := of_ite_error_ok h
  have hdata : command.length ≤ dataCapacity := by
    by_contra hlong
    exact hbounds (.inr (.inr (Nat.lt_of_not_le hlong)))
  obtain ⟨⟨identity, s1⟩, hreserve, h⟩ := of_bind_ok h
  cases h
  refine ⟨.of_reserve hreserve hdata (by simp [messageCapacity]) (Fits.acm _ _ _ _ _), ?_⟩
  cases (of_ite_error_ok hreserve).2
  rfl

/-! ### Waiting -/

lemma waiterConsume_matched {w : Waiter}
    (h : waiterConsume w transfer bufferSize = .ok (.matched m)) :
    parse transfer bufferSize = .ok m ∧ matchesPending m w.pending = .ok () := by
  obtain ⟨m', hparse, h⟩ := of_bind_ok h
  split at h
  · next hmatch =>
    cases h
    exact ⟨hparse, hmatch⟩
  · split at h <;> cases h

lemma waiterConsume_skipped {w w' : Waiter} {classification : MessageClass}
    (h : waiterConsume w transfer bufferSize = .ok (.skipped classification w')) :
    (∃ m, parse transfer bufferSize = .ok m ∧ matchesPending m w.pending ≠ .ok ()) ∧
      w.skipped + 1 < w.skipLimit ∧ w' = { w with skipped := w.skipped + 1 } := by
  obtain ⟨m', hparse, h⟩ := of_bind_ok h
  split at h
  · cases h
  next hmatch =>
  obtain ⟨hlimit, h⟩ := of_ite_error_ok h
  cases h
  exact ⟨⟨m', hparse, by simp [hmatch]⟩, Nat.lt_of_not_le hlimit, rfl⟩

/-! ### Matching -/

lemma matchesPending_ok (h : matchesPending m pending = .ok ()) : m.endpoint = pending.endpoint ∧
      (pending.kind = .keystore → byteAt 9 m.message = pending.selector ||| 0x80 ∧
        byteAt 10 m.message = pending.transaction) ∧
      (pending.kind = .acm → byteAt 9 m.message = pending.selector) := by
  obtain ⟨_, hheader, h⟩ := of_bind_ok h
  obtain ⟨hne, -⟩ := of_ite_error_ok (of_ite_error_ok hheader).2
  refine ⟨not_not.mp hne, fun hkind => ?_, fun hkind => ?_⟩
  · simp only [hkind] at h
    obtain ⟨hmatch, -⟩ := of_ite_error_ok h
    obtain ⟨-, hselector, htransaction⟩ := by simpa only [not_or, not_not] using hmatch
    exact ⟨hselector, htransaction⟩
  · simp only [hkind] at h
    exact not_not.mp (not_or.mp (of_ite_error_ok h).1).2

/-! ### Accepting control replies -/

lemma acceptVersion_ok (h : acceptVersion s m pending = .ok s') : s'.bound = s.bound := by
  obtain ⟨-, h⟩ := of_ite_error_ok h
  obtain ⟨_, -, h⟩ := of_bind_ok h
  obtain ⟨-, h⟩ := of_ite_error_ok h
  cases h
  rfl

lemma acceptEndpointStatus_ok (h : acceptEndpointStatus s m pending = .ok s') :
    s'.bound = s.bound := by
  obtain ⟨-, h⟩ := of_ite_error_ok h
  obtain ⟨_, -, h⟩ := of_bind_ok h
  obtain ⟨-, h⟩ := of_ite_error_ok h
  obtain ⟨-, h⟩ := of_ite_error_ok h
  cases h
  rfl

end T1Bridge.Sep.Relay
