import T1Bridge.Lib.Codec
import T1Bridge.Auth.Fingerprint

/-! # The fingerprint wire format is exact

`decodePacket` accepts a packet exactly when it is what `encodePacket` makes of the type and
payload it returns, every field reader takes off exactly what its writer puts there
(`Codec.Inverts`), and so a message decodes from a packet exactly when it encodes to it.  No
header byte, length or reserved field is left unchecked, so no two packets carry one message. -/

namespace T1Bridge

open List (append_nil length_append length_cons)
open UInt8 (ofNat_toNat toNat_inj)
open Codec
open Except (bind_eq_ok ite_error_eq_ok of_bind_ok of_ite_error_ok ok_bind pure_eq_ok)
open TerminalOutcome (encode)

variable {operations : CapabilitySet} {owner : Option Username} {bytes : List UInt8}
  {high low : UInt8}

/-! ### Framing -/

lemma toBeBytes_eq_iff {n : ℕ} (h : n < 2 ^ 16) :
    UInt16.toBeBytes n.toUInt16 = [high, low] ↔ fromBeBytes high low = n := by
  have hhigh := high.toNat_lt
  have hlow := low.toNat_lt
  have hnat : n.toUInt16.toNat = n := Nat.mod_eq_of_lt h
  simp only [UInt16.toBeBytes, fromBeBytes, List.cons.injEq, and_true, ← toNat_inj]
  simp [hnat]
  omega

variable {messageType : UInt8} {packet : Packet} {identities : List Identity}
  {message : ServerMessage} {value : String} {count : ℕ} {α : Type}

lemma length_of_encodePacket {payload : List UInt8}
    (h : encodePacket messageType payload = .ok packet) : packet.length ≤ maxPacketSize := by
  obtain ⟨hfits, hok⟩ := of_ite_error_ok h
  cases hok
  simp [magic, ascii, UInt16.toBeBytes, headerSize] at hfits ⊢
  omega

lemma encodePacket_fits {payload : List UInt8} (h : headerSize + payload.length ≤ maxPacketSize) :
    ∃ packet, encodePacket messageType payload = .ok packet := by
  rw [encodePacket, if_neg (Nat.not_lt.mpr h)]
  exact ⟨_, rfl⟩

lemma fromBeBytes_lt (high low : UInt8) : fromBeBytes high low < 2 ^ 16 := by
  have hhigh := high.toNat_lt
  have hlow := low.toNat_lt
  unfold fromBeBytes
  omega

lemma exists_header (h : headerSize ≤ packet.length) :
    ∃ b0 b1 b2 b3 b4 b5 b6 b7 b8 b9 b10 b11 payload,
      packet = b0 :: b1 :: b2 :: b3 :: b4 :: b5 :: b6 :: b7 :: b8 :: b9 :: b10 :: b11 ::
        payload := by
  match packet, h with
  | b0 :: b1 :: b2 :: b3 :: b4 :: b5 :: b6 :: b7 :: b8 :: b9 :: b10 :: b11 :: payload, _ =>
    exact ⟨b0, b1, b2, b3, b4, b5, b6, b7, b8, b9, b10, b11, payload, rfl⟩

lemma decodePacket_ok {payload : List UInt8} : decodePacket packet = .ok (messageType, payload) ↔
      encodePacket messageType payload = .ok packet := by
  rw [encodePacket, ite_error_eq_ok, Except.ok.injEq]
  by_cases hshort : packet.length < headerSize
  · rw [decodePacket, if_pos hshort]
    refine iff_of_false nofun ?_
    rintro ⟨-, rfl⟩
    simp [magic, ascii, UInt16.toBeBytes, headerSize] at hshort
    omega
  obtain ⟨b0, b1, b2, b3, b4, b5, b6, b7, b8, b9, b10, b11, rest, rfl⟩ :=
    exists_header (Nat.not_lt.mp hshort)
  have hzero : UInt16.toBeBytes 0 = [0, 0] := rfl
  simp only [decodePacket, ite_error_eq_ok]
  simp [magic, ascii, headerSize, hzero]
  unfold maxPacketSize
  constructor
  · rintro ⟨hfits, ⟨rfl, rfl, rfl, rfl⟩, rfl, ⟨hreserved, hreserved'⟩, hlength, rfl, rfl⟩
    cases (toBeBytes_eq_iff (by decide)).mpr hreserved
    cases (toBeBytes_eq_iff (by decide)).mpr hreserved'
    have hbytes := (toBeBytes_eq_iff (by omega)).mpr hlength
    exact ⟨by omega, rfl, rfl, rfl, rfl, rfl, rfl, rfl, rfl, congrArg (· ++ 0 :: 0 :: rest) hbytes⟩
  · rintro ⟨hfits, rfl, rfl, rfl, rfl, rfl, rfl, rfl, rfl, h⟩
    cases h
    have hlength := (toBeBytes_eq_iff (by omega : payload.length < 2 ^ 16)).mp rfl
    exact ⟨by omega, ⟨rfl, rfl, rfl, rfl⟩, rfl, ⟨rfl, rfl⟩, hlength, rfl, rfl⟩

/-! ### Fields -/

lemma inverts_takeByte : Inverts takeByte fun value => [value] := by
  intro bytes value rest
  cases bytes with
  | nil | cons b bytes => simp [takeByte]

lemma takeSlice_ok {payload slice rest : List UInt8} {length : ℕ} :
    takeSlice payload length = .ok (slice, rest) ↔
      slice.length = length ∧ payload = slice ++ rest := take_ok

/-- A byte string is the text whose bytes it is, if it is any text's. -/
lemma fromUTF8_eq_some :
    String.fromUTF8? ⟨bytes.toArray⟩ = some value ↔ bytes = utf8Bytes value := by
  unfold String.fromUTF8? utf8Bytes
  constructor
  · intro h
    split_ifs at h
    cases h
    rfl
  · rintro rfl
    rw [dif_pos value.isValidUTF8]
    rfl

lemma Username.new_ok {username : Username} :
    Username.new value = .ok username ↔ value = username.value := by
  unfold Username.new
  constructor
  · intro h
    split_ifs at h
    cases h
    rfl
  · rintro rfl
    rw [dif_pos username.valid]

lemma Username.length_le (username : Username) :
    (utf8Bytes username.value).length ≤ maxUsernameSize :=
  Nat.not_lt.mp fun h => username.valid (.inr (.inl h))

/-- The length byte of a name holds its length: no valid name is longer than a byte can say. -/
lemma Username.length_byte (username : Username) :
    (utf8Bytes username.value).length.toUInt8.toNat = (utf8Bytes username.value).length :=
  Nat.mod_eq_of_lt (Nat.lt_succ_of_le username.length_le)

lemma length_encodeUsername (username : Username) :
    (encodeUsername username).length ≤ 1 + maxUsernameSize := by
  rw [encodeUsername, length_cons]
  have := username.length_le
  omega

lemma inverts_decodeUsername : Inverts decodeUsername encodeUsername := by
  intro bytes username rest
  simp only [decodeUsername, inverts_takeByte.bind_ok, bind_eq_ok, Prod.exists, takeSlice_ok]
  constructor
  · rintro ⟨length, _, rfl, slice, behind, ⟨hlength, rfl⟩, hname⟩
    split at hname
    · cases hname
    next hutf =>
    obtain ⟨username', hnew, hpair⟩ := of_bind_ok hname
    cases hpair
    cases fromUTF8_eq_some.mp hutf
    cases Username.new_ok.mp hnew
    have hbyte : (utf8Bytes username.value).length.toUInt8 = length := by
      rw [hlength]
      exact ofNat_toNat
    rw [encodeUsername, hbyte]
    rfl
  · rintro rfl
    refine ⟨_, utf8Bytes username.value ++ rest, rfl, utf8Bytes username.value, rest,
      ⟨username.length_byte.symm, rfl⟩, ?_⟩
    rw [fromUTF8_eq_some.mpr rfl]
    exact ok_bind (Username.new_ok.mpr rfl) _

lemma IdentityId.new_ok {identity : IdentityId} :
    IdentityId.new bytes = .ok identity ↔ bytes = identity.bytes := by
  unfold IdentityId.new
  constructor
  · intro h
    split_ifs at h
    cases h
    rfl
  · rintro rfl
    rw [dif_pos identity.length_eq, dif_neg identity.ne_zero]

lemma inverts_decodeIdentity : Inverts decodeIdentity IdentityId.bytes := by
  intro bytes identity rest
  simp only [decodeIdentity, bind_eq_ok, Prod.exists, takeSlice_ok, IdentityId.new_ok, pure_eq_ok]
  simp [identity.length_eq]

lemma FingerLabel.decode_ok {value : UInt8} {finger : FingerLabel} :
    FingerLabel.decode value = .ok finger ↔ value = finger.toByte := by
  constructor
  · intro h
    refine toNat_inj.mp ?_
    unfold FingerLabel.decode at h
    split at h <;> cases h <;> assumption
  · rintro rfl
    cases finger <;> rfl

lemma inverts_decodeFinger : Inverts decodeFinger fun finger => [finger.toByte] :=
  inverts_takeByte.check fun _ _ => FingerLabel.decode_ok

/-! ### Client packets -/

def ClientMessage.wireType : ClientMessage → UInt8
  | getCapabilities => 0x01
  | «open» => 0x02
  | listIdentities => 0x03
  | enroll _ _ => 0x04
  | verify _ _ => 0x05
  | identify _ => 0x06
  | deleteIdentity _ _ => 0x07
  | cancel => 0x08

def ClientMessage.payload : ClientMessage → List UInt8
  | enroll username finger => encodeUsername username ++ [finger.toByte]
  | verify username identity => encodeUsername username ++ identity.bytes
  | identify username => encodeUsername username
  | deleteIdentity username identity => encodeUsername username ++ identity.bytes
  | _ => []

lemma encodeClient_eq (message : ClientMessage) :
    encodeClient message = encodePacket message.wireType message.payload := by
  cases message <;> rfl

lemma emptyPayload_ok {payload : List UInt8} {message message' : α} :
    (requireEmpty payload >>= fun _ => .ok (message', payload)) = .ok (message, []) ↔
      message' = message ∧ payload = [] := by
  simp [bind_eq_ok, requireEmpty]

lemma consumed_ok {x : α × List UInt8} {value : α} : consumed x = .ok value ↔ x = (value, []) := by
  obtain ⟨value', rest⟩ := x
  cases rest <;> simp [consumed]

lemma wireType_payload_of_decodeClientPayload {payload : List UInt8}
    {message : ClientMessage} (h : decodeClientPayload messageType payload = .ok (message, [])) :
    messageType = message.wireType ∧ payload = message.payload := by
  unfold decodeClientPayload at h
  split at h
  case h_1 htype | h_2 htype | h_3 htype | h_8 htype =>
    obtain ⟨rfl, rfl⟩ := emptyPayload_ok.mp h
    exact ⟨toNat_inj.mp htype, rfl⟩
  case h_4 htype =>
    obtain ⟨username, finger, rfl, rfl⟩ :=
      (inverts_decodeUsername.pair_ok inverts_decodeFinger _).mp h
    exact ⟨toNat_inj.mp htype, rfl⟩
  case h_5 htype | h_7 htype =>
    obtain ⟨username, identity, rfl, rfl⟩ :=
      (inverts_decodeUsername.pair_ok inverts_decodeIdentity _).mp h
    exact ⟨toNat_inj.mp htype, by rw [append_nil]; rfl⟩
  case h_6 htype =>
    obtain ⟨username, rfl, rfl⟩ := (inverts_decodeUsername.map_ok _).mp h
    exact ⟨toNat_inj.mp htype, append_nil _⟩
  case h_9 => cases h

lemma decodeClientPayload_payload (message : ClientMessage) :
    decodeClientPayload message.wireType message.payload = .ok (message, []) := by
  cases message with
  | getCapabilities | «open» | listIdentities | cancel => rfl
  | enroll username finger =>
    exact (inverts_decodeUsername.pair_ok inverts_decodeFinger _).mpr ⟨username, finger, rfl, rfl⟩
  | verify username identity | deleteIdentity username identity =>
    exact (inverts_decodeUsername.pair_ok inverts_decodeIdentity _).mpr
      ⟨username, identity, rfl, by rw [append_nil]; rfl⟩
  | identify username =>
    exact (inverts_decodeUsername.map_ok _).mpr ⟨username, rfl, (append_nil _).symm⟩

lemma decodeClient_ok {message : ClientMessage} :
    decodeClient packet = .ok message ↔ encodeClient message = .ok packet := by
  rw [encodeClient_eq, ← decodePacket_ok]
  unfold decodeClient
  constructor
  · intro h
    obtain ⟨⟨messageType, payload⟩, hpacket, hnext⟩ := of_bind_ok h
    obtain ⟨x, hpayload, hconsumed⟩ := of_bind_ok hnext
    cases consumed_ok.mp hconsumed
    obtain ⟨rfl, rfl⟩ := wireType_payload_of_decodeClientPayload hpayload
    exact hpacket
  · intro hpacket
    rw [ok_bind hpacket]
    exact (ok_bind (decodeClientPayload_payload message) _).trans (consumed_ok.mpr rfl)

lemma ClientMessage.length_payload (message : ClientMessage) :
    message.payload.length ≤ 1 + maxUsernameSize + 16 := by
  cases message with
  | getCapabilities | «open» | listIdentities | cancel => exact Nat.zero_le _
  | enroll username _ | identify username | verify username _ | deleteIdentity username _ =>
    have := length_encodeUsername username
    simp only [payload, length_append, List.length_singleton, IdentityId.length_eq]
    omega

/-- No account name and no label makes a client message too large for a packet. -/
lemma encodeClient_fits (message : ClientMessage) :
    ∃ packet, encodeClient message = .ok packet := by
  rw [encodeClient_eq]
  refine encodePacket_fits ?_
  have hlength := message.length_payload
  unfold maxUsernameSize at hlength
  unfold headerSize maxPacketSize
  omega

/-! ### Identity lists -/

/-- What makes an identity list a message: the bound, an owner exactly for a nonempty list, and
no identifier twice. -/
def ServerMessage.Constructible : ServerMessage → Prop
  | identityList owner identities =>
    identities.length ≤ maxIdentities ∧ (owner.isSome ↔ identities ≠ []) ∧
      (identities.map Identity.id).Nodup
  | _ => True

lemma validateIdentityList_ok : validateIdentityList owner identities = .ok () ↔
      (ServerMessage.identityList owner identities).Constructible := by
  have howner : (owner.isSome = identities.isEmpty) ↔ ¬ (owner.isSome ↔ identities ≠ []) := by
    cases owner <;> cases identities <;> simp
  simp only [validateIdentityList, ite_error_eq_ok, howner, not_not, Nat.not_lt, Bool.not_eq_true,
    repeats_eq_false_iff, and_true]
  rfl

def encodeIdentities (identities : List Identity) : List UInt8 :=
  identities.flatMap fun identity => identity.id.bytes ++ [identity.finger.toByte]

lemma inverts_identity : Inverts (fun bytes => decodeIdentity bytes >>= fun x =>
    decodeFinger x.2 >>= fun y => .ok (Identity.mk x.1 y.1, y.2))
    fun identity => identity.id.bytes ++ [identity.finger.toByte] := by
  intro bytes identity rest
  rw [inverts_decodeIdentity.pair_ok inverts_decodeFinger Identity.mk, List.append_assoc]
  exact ⟨fun ⟨_, _, hmk, hbytes⟩ => hmk ▸ hbytes, fun h => ⟨_, _, rfl, h⟩⟩

lemma decodeIdentities_ok {payload rest : List UInt8} :
    decodeIdentities count payload = .ok (identities, rest) ↔
      identities.length = count ∧ payload = encodeIdentities identities ++ rest := by
  refine inverts_identity.counted (fun _ => rfl) fun n bytes => ?_
  simp only [decodeIdentities, bind_assoc]
  rfl

lemma length_encodeIdentities (identities : List Identity) :
    (encodeIdentities identities).length = 17 * identities.length := by
  induction identities with
  | nil => rfl
  | cons identity identities ih =>
    unfold encodeIdentities at ih ⊢
    rw [List.flatMap_cons, length_append, length_append, identity.id.length_eq,
      List.length_singleton, length_cons]
    omega

/-! ### Server packets -/

def ServerMessage.wireType : ServerMessage → UInt8
  | capabilities _ => 0x81
  | opened => 0x82
  | identityList _ _ => 0x83
  | enrollProgress _ => 0x84
  | terminal _ => 0x85

def ServerMessage.payload : ServerMessage → List UInt8
  | capabilities c => UInt16.toBeBytes c.operations.bits ++ [c.maxEnrollStages, c.maxIdentities]
  | opened => []
  | identityList owner identities => identities.length.toUInt8 ::
      ((owner.map encodeUsername).getD [] ++ encodeIdentities identities)
  | enrollProgress progress => [progress.completedStage, progress.totalStages]
  | terminal outcome => outcome.encode

lemma encodeServer_ok : encodeServer message = .ok packet ↔
      message.Constructible ∧ encodePacket message.wireType message.payload = .ok packet := by
  cases message with
  | identityList owner identities =>
    rw [encodeServer, Except.unit_bind_eq_ok, validateIdentityList_ok]
    rfl
  | _ => exact ⟨fun h => ⟨trivial, h⟩, And.right⟩

lemma CapabilitySet.fromBits_ok {bits : UInt16} :
    CapabilitySet.fromBits bits = .ok operations ↔ bits = operations.bits := by
  unfold CapabilitySet.fromBits
  constructor
  · intro h
    split_ifs at h
    cases h
    rfl
  · rintro rfl
    rw [dif_pos operations.known]

lemma Capabilities.new_ok {stages identities : UInt8} {c : Capabilities} :
    Capabilities.new operations stages identities = .ok c ↔
      operations = c.operations ∧ stages = c.maxEnrollStages ∧ identities = c.maxIdentities := by
  unfold Capabilities.new
  constructor
  · intro h
    split_ifs at h
    cases h
    exact ⟨rfl, rfl, rfl⟩
  · rintro ⟨rfl, rfl, rfl⟩
    rw [dif_pos c.consistent]

lemma EnrollProgress.new_ok {completedStage totalStages : UInt8} {progress : EnrollProgress} :
    EnrollProgress.new completedStage totalStages = .ok progress ↔
      completedStage = progress.completedStage ∧ totalStages = progress.totalStages := by
  unfold EnrollProgress.new
  constructor
  · intro h
    split_ifs at h
    cases h
    exact ⟨rfl, rfl⟩
  · rintro ⟨rfl, rfl⟩
    rw [dif_pos progress.inRange]

lemma inverts_decodeOutcome : Inverts decodeOutcome encode := by
  intro bytes outcome rest
  unfold decodeOutcome
  rw [inverts_takeByte.bind_ok]
  constructor
  · rintro ⟨code, behind, rfl, hnext⟩
    dsimp only at hnext
    split at hnext
    case h_2 hcode | h_3 hcode =>
      obtain ⟨identity, rfl, rfl⟩ := (inverts_decodeIdentity.map_ok _).mp hnext
      exact congrArg (· :: (identity.bytes ++ rest)) (toNat_inj.mp hcode)
    case h_13 => cases hnext
    all_goals
      next hcode =>
        cases hnext
        exact congrArg (· :: rest) (toNat_inj.mp hcode)
  · rintro rfl
    cases outcome with
    | enrolled identity | matched identity =>
      exact ⟨_, identity.bytes ++ rest, rfl,
        (inverts_decodeIdentity.map_ok _).mpr ⟨identity, rfl, rfl⟩⟩
    | _ => exact ⟨_, rest, rfl, rfl⟩

/-- What follows the owner of an identity list. -/
def decodeListed (count : ℕ) (owner : Option Username) (payload : List UInt8) :
    Except ProtocolError (ServerMessage × List UInt8) := do
  let (identities, payload) ← decodeIdentities count payload
  validateIdentityList owner identities
  return (.identityList owner identities, payload)

lemma decodeListed_ok {payload rest : List UInt8} :
    decodeListed count owner payload = .ok (message, rest) ↔
      ∃ identities, message = .identityList owner identities ∧ message.Constructible ∧
        identities.length = count ∧ payload = encodeIdentities identities ++ rest := by
  simp only [decodeListed, bind_eq_ok, Prod.exists, decodeIdentities_ok, pure_eq_ok, Prod.mk.injEq]
  constructor
  · rintro ⟨identities, _, hlist, _, hvalid, rfl, rfl⟩
    exact ⟨identities, rfl, validateIdentityList_ok.mp hvalid, hlist⟩
  · rintro ⟨identities, rfl, hvalid, hlist⟩
    exact ⟨identities, rest, hlist, (), validateIdentityList_ok.mpr hvalid, rfl, rfl⟩

lemma decodeServerPayload_list (count : UInt8) (payload : List UInt8) :
    decodeServerPayload 0x83 (count :: payload) =
      if count.toNat > maxIdentities then .error .invalidPayload
      else if count = 0 then decodeListed count.toNat none payload
      else decodeUsername payload >>= fun x => decodeListed count.toNat (some x.1) x.2 := by
  by_cases hmany : count.toNat > maxIdentities
  · rw [if_pos hmany]
    exact if_pos hmany
  · rw [if_neg hmany]
    exact if_neg hmany

lemma decodeServerPayload_list_ok {payload : List UInt8} :
    decodeServerPayload 0x83 payload = .ok (message, []) ↔
      message.wireType = 0x83 ∧ message.Constructible ∧ payload = message.payload := by
  constructor
  · intro h
    cases payload with
    | nil => cases h
    | cons count payload =>
    have hlisted : ∀ {owner behind}, decodeListed count.toNat owner behind = .ok (message, []) →
        message.wireType = 0x83 ∧ message.Constructible ∧
          count :: ((owner.map encodeUsername).getD [] ++ behind) = message.payload := by
      intro owner behind h
      obtain ⟨identities, rfl, hvalid, hlength, rfl⟩ := decodeListed_ok.mp h
      refine ⟨rfl, hvalid, ?_⟩
      rw [ServerMessage.payload, hlength, append_nil]
      exact congrArg (· :: _) ofNat_toNat.symm
    obtain ⟨hmany, h⟩ := of_ite_error_ok h
    by_cases hzero : count = 0
    · rw [if_pos hzero] at h
      exact hlisted h
    · rw [if_neg hzero] at h
      obtain ⟨owner, behind, rfl, hnext⟩ := inverts_decodeUsername.bind_ok.mp h
      exact hlisted hnext
  · rintro ⟨htype, hvalid, rfl⟩
    cases message with
    | identityList owner identities =>
      have hcount : identities.length.toUInt8.toNat = identities.length :=
        Nat.mod_eq_of_lt (hvalid.1.trans_lt (by decide))
      rw [ServerMessage.payload, decodeServerPayload_list, hcount, if_neg (Nat.not_lt.mpr hvalid.1)]
      cases owner with
      | none =>
        have hempty : identities = [] := by simpa using hvalid.2.1
        subst hempty
        exact decodeListed_ok.mpr ⟨[], rfl, hvalid, rfl, rfl⟩
      | some owner =>
        have hsome : identities ≠ [] := hvalid.2.1.mp rfl
        have hnonzero : identities.length.toUInt8 ≠ 0 := by
          intro hzero
          rw [hzero] at hcount
          exact hsome (List.length_eq_zero_iff.mp hcount.symm)
        rw [if_neg hnonzero]
        refine inverts_decodeUsername.bind_ok.mpr ⟨owner, encodeIdentities identities, rfl, ?_⟩
        exact decodeListed_ok.mpr ⟨identities, rfl, hvalid, rfl, (append_nil _).symm⟩
    | _ => cases htype

lemma constructible_of_decodeServerPayload {payload : List UInt8}
    (h : decodeServerPayload messageType payload = .ok (message, [])) :
    message.Constructible ∧ messageType = message.wireType ∧ payload = message.payload := by
  by_cases hlist : messageType = 0x83
  · rw [hlist] at h
    obtain ⟨htype, hvalid, hpayload⟩ := decodeServerPayload_list_ok.mp h
    exact ⟨hvalid, hlist.trans htype.symm, hpayload⟩
  unfold decodeServerPayload at h
  split at h
  case h_1 htype =>
    split at h
    case h_1 high low stages identities =>
      obtain ⟨operations, hbits, hnext⟩ := of_bind_ok h
      obtain ⟨c, hnew, hpair⟩ := of_bind_ok hnext
      cases hpair
      obtain ⟨rfl, rfl, rfl⟩ := Capabilities.new_ok.mp hnew
      refine ⟨trivial, toNat_inj.mp htype, ?_⟩
      rw [ServerMessage.payload, ← CapabilitySet.fromBits_ok.mp hbits,
        (toBeBytes_eq_iff (fromBeBytes_lt high low)).mpr rfl]
      rfl
    case h_2 => cases h
  case h_2 htype =>
    obtain ⟨rfl, rfl⟩ := emptyPayload_ok.mp h
    exact ⟨trivial, toNat_inj.mp htype, rfl⟩
  case h_3 htype => exact absurd (toNat_inj.mp htype) hlist
  case h_4 htype =>
    split at h
    case h_1 completedStage totalStages =>
      obtain ⟨progress, hnew, hpair⟩ := of_bind_ok h
      cases hpair
      obtain ⟨rfl, rfl⟩ := EnrollProgress.new_ok.mp hnew
      exact ⟨trivial, toNat_inj.mp htype, rfl⟩
    case h_2 => cases h
  case h_5 htype =>
    obtain ⟨outcome, rfl, rfl⟩ := (inverts_decodeOutcome.map_ok ServerMessage.terminal).mp h
    exact ⟨trivial, toNat_inj.mp htype, append_nil _⟩
  case h_6 => cases h

lemma decodeServerPayload_payload (h : message.Constructible) :
    decodeServerPayload message.wireType message.payload = .ok (message, []) := by
  cases message with
  | capabilities c =>
    have hbits : CapabilitySet.fromBits (fromBeBytes (c.operations.bits >>> 8).toUInt8
        c.operations.bits.toUInt8).toUInt16 = .ok c.operations := by
      rw [CapabilitySet.fromBits_ok, (toBeBytes_eq_iff c.operations.bits.toNat_lt).mp
        (congrArg UInt16.toBeBytes UInt16.ofNat_toNat)]
      exact UInt16.ofNat_toNat
    refine (ok_bind hbits _).trans ?_
    exact ok_bind (Capabilities.new_ok.mpr ⟨rfl, rfl, rfl⟩) _
  | opened => rfl
  | identityList owner identities => exact decodeServerPayload_list_ok.mpr ⟨rfl, h, rfl⟩
  | enrollProgress progress => exact ok_bind (EnrollProgress.new_ok.mpr ⟨rfl, rfl⟩) _
  | terminal outcome =>
    exact (inverts_decodeOutcome.map_ok ServerMessage.terminal).mpr
      ⟨outcome, rfl, (append_nil _).symm⟩

lemma decodeServer_ok : decodeServer packet = .ok message ↔ encodeServer message = .ok packet := by
  rw [encodeServer_ok, ← decodePacket_ok]
  unfold decodeServer
  constructor
  · intro h
    obtain ⟨⟨messageType, payload⟩, hpacket, hnext⟩ := of_bind_ok h
    obtain ⟨x, hpayload, hconsumed⟩ := of_bind_ok hnext
    cases consumed_ok.mp hconsumed
    obtain ⟨hvalid, rfl, rfl⟩ := constructible_of_decodeServerPayload hpayload
    exact ⟨hvalid, hpacket⟩
  · rintro ⟨hvalid, hpacket⟩
    rw [ok_bind hpacket]
    exact (ok_bind (decodeServerPayload_payload hvalid) _).trans (consumed_ok.mpr rfl)

lemma ServerMessage.length_payload (h : message.Constructible) :
    message.payload.length ≤ 1 + (1 + maxUsernameSize) + 17 * maxIdentities := by
  cases message with
  | capabilities c => simp [payload, UInt16.toBeBytes, maxIdentities]
  | opened => exact Nat.zero_le _
  | identityList owner identities =>
    have hcount := h.1
    have howner : ((owner.map encodeUsername).getD []).length ≤ 1 + maxUsernameSize := by
      cases owner with
      | none => exact Nat.zero_le _
      | some owner => exact length_encodeUsername owner
    simp only [payload, length_cons, length_append, length_encodeIdentities]
    omega
  | enrollProgress progress => simp [payload, maxIdentities]
  | terminal outcome =>
    cases outcome <;> simp [payload, encode, IdentityId.length_eq, maxIdentities]

lemma encodeServer_fits (h : message.Constructible) :
    ∃ packet, encodeServer message = .ok packet := by
  have hlength := message.length_payload h
  unfold maxUsernameSize maxIdentities at hlength
  have hfits : headerSize + message.payload.length ≤ maxPacketSize := by
    unfold headerSize maxPacketSize
    omega
  obtain ⟨packet, hpacket⟩ : ∃ packet, encodePacket message.wireType message.payload = .ok packet :=
    encodePacket_fits hfits
  exact ⟨packet, encodeServer_ok.mpr ⟨h, hpacket⟩⟩

/-! ### Both directions -/

/-- Messages and packets correspond one to one: every client message has a packet within the
limit, every well-formed server message has one, and a packet decodes to a message exactly when
it is that message's encoding. -/
theorem fingerprint_messages_are_packets :
    (∀ message : ClientMessage, ∃ packet, encodeClient message = .ok packet ∧
      packet.length ≤ maxPacketSize ∧ decodeClient packet = .ok message) ∧
    (∀ (packet : Packet) (message : ClientMessage),
      decodeClient packet = .ok message ↔ encodeClient message = .ok packet) ∧
    (∀ message : ServerMessage, message.Constructible ↔
      ∃ packet, encodeServer message = .ok packet ∧ packet.length ≤ maxPacketSize ∧
        decodeServer packet = .ok message) ∧ (∀ (packet : Packet) (message : ServerMessage),
      decodeServer packet = .ok message ↔ encodeServer message = .ok packet) := by
  refine ⟨fun message => ?_, fun _ _ => decodeClient_ok, fun message => ⟨fun h => ?_, ?_⟩,
    fun _ _ => decodeServer_ok⟩
  · obtain ⟨packet, hpacket⟩ := encodeClient_fits message
    refine ⟨packet, hpacket, ?_, decodeClient_ok.mpr hpacket⟩
    rw [encodeClient_eq] at hpacket
    exact length_of_encodePacket hpacket
  · obtain ⟨packet, hpacket⟩ := encodeServer_fits h
    exact ⟨packet, hpacket, length_of_encodePacket (encodeServer_ok.mp hpacket).2,
      decodeServer_ok.mpr hpacket⟩
  · rintro ⟨packet, hpacket, -⟩
    exact (encodeServer_ok.mp hpacket).1

end T1Bridge
