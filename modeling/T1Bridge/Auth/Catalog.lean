import T1Bridge.Auth.Connection

/-! # Stored identities

The manifest stored beside a committed generation, the catalog built from it, and the two
read-only views a standard worker loads: the catalog of one account and the listing.  A
catalog keeps identities without a finger label as hidden recovery anchors; its identity
ids are distinct (`StandardIdentityCatalog.valid`), so a labelled id is not hidden
(`containsLabeled_of_mem`).

The stores are read by code outside this model, so a load result is a parameter. -/

namespace T1Bridge

variable {identity : Identity}

/-! ### Manifest -/

/-- An enrolled identity; one without a finger is a recovery anchor. -/
structure IdentityMetadataEntry where
  id : IdentityId
  finger : Option FingerLabel

/-- The content of the metadata file of a pair. -/
structure IdentityMetadata where
  owner : Username
  identities : List IdentityMetadataEntry

inductive MetadataError where
  | tooManyIdentities | badMagic | unsupportedVersion | nonzeroReserved | invalidUsername
  | invalidIdentity | duplicateIdentity | invalidFingerLabel | trailingData | truncated

def metadataMagic : Packet := ascii ['T', '1', 'I', 'M']

def metadataVersion : UInt8 := 1

def metadataHeaderSize : ℕ := 9

def metadataEntrySize : ℕ := 17

def maxManifestSize : ℕ := metadataHeaderSize + maxUsernameSize + maxIdentities * metadataEntrySize

def IdentityMetadata.new (owner : Username) (identities : List IdentityMetadataEntry) :
    Except MetadataError IdentityMetadata :=
  if identities.length > maxIdentities then .error .tooManyIdentities
  else if ¬ (identities.map IdentityMetadataEntry.id).Nodup then .error .duplicateIdentity
  else .ok ⟨owner, identities⟩

/-- The next bytes of a manifest, with what is left of it. -/
def takeMetadata (encoded : List UInt8) (length : ℕ) :
    Except MetadataError (List UInt8 × List UInt8) :=
  if encoded.length < length then .error .truncated
  else .ok (encoded.take length, encoded.drop length)

/-- A zero byte is an identity without a standard label. -/
def decodeMetadataFinger (value : UInt8) : Except MetadataError (Option FingerLabel) :=
  if value = 0 then .ok none
  else
    match FingerLabel.decode value with
    | .ok finger => .ok (some finger)
    | .error _ => .error .invalidFingerLabel

def decodeEntry (encoded : List UInt8) :
    Except MetadataError (IdentityMetadataEntry × List UInt8) := do
  let (bytes, encoded) ← takeMetadata encoded 16
  match IdentityId.new bytes with
  | .error _ => .error .invalidIdentity
  | .ok id =>
    let (value, encoded) ← takeMetadata encoded 1
    return (⟨id, ← decodeMetadataFinger (value.getD 0 0)⟩, encoded)

def decodeEntries : ℕ → List UInt8 → Except MetadataError (List IdentityMetadataEntry × List UInt8)
  | 0, encoded => .ok ([], encoded)
  | count + 1, encoded => do
    let (entry, encoded) ← decodeEntry encoded
    let (entries, encoded) ← decodeEntries count encoded
    return (entry :: entries, encoded)

def decodeMetadataOwner (bytes : List UInt8) : Except MetadataError Username :=
  match String.fromUTF8? ⟨bytes.toArray⟩ with
  | none => .error .invalidUsername
  | some value =>
    match Username.new value with
    | .ok username => .ok username
    | .error _ => .error .invalidUsername

def decodeMetadata (encoded : Packet) : Except MetadataError IdentityMetadata :=
  if encoded.length > maxManifestSize then .error .tooManyIdentities
  else if encoded.length < metadataHeaderSize then .error .truncated
  else if encoded.take 4 ≠ metadataMagic then .error .badMagic
  else if encoded.getD 4 0 ≠ metadataVersion then .error .unsupportedVersion
  else if (encoded.getD 5 0).toNat > maxIdentities then .error .tooManyIdentities
  else if fromBeBytes (encoded.getD 6 0) (encoded.getD 7 0) ≠ 0 then .error .nonzeroReserved
  else do
    let (name, rest) ← takeMetadata (encoded.drop metadataHeaderSize) (encoded.getD 8 0).toNat
    let owner ← decodeMetadataOwner name
    let (identities, rest) ← decodeEntries (encoded.getD 5 0).toNat rest
    if rest ≠ [] then .error .trailingData
    IdentityMetadata.new owner identities

/-! ### Catalog -/

inductive CatalogError where
  | tooManyIdentities | duplicateIdentity | ownerMismatch | identitySetMismatch
  | identityNotLabeled | invalidState

/-- A bounded set of distinct identities. -/
def ValidIds (ids : List IdentityId) : Prop := ids.length ≤ maxIdentities ∧ ids.Nodup

instance (ids : List IdentityId) : Decidable (ValidIds ids) :=
  inferInstanceAs (Decidable (_ ∧ _))

/-- Why a list of ids is not valid. -/
def idsError (ids : List IdentityId) : CatalogError :=
  if ids.length > maxIdentities then .tooManyIdentities else .duplicateIdentity

/-- The owner's identities, no two with one id. -/
structure StandardIdentityCatalog where
  owner : Username
  identities : List IdentityMetadataEntry
  valid : ValidIds (identities.map IdentityMetadataEntry.id)

def sameIdentitySet (entries : List IdentityMetadataEntry) (live : List IdentityId) : Bool :=
  entries.length == live.length && entries.all fun entry => live.contains entry.id

variable {catalog : StandardIdentityCatalog}

namespace StandardIdentityCatalog

/-- The catalog of a manifest that names exactly the live identities, or of the live
identities alone, which are then all without a label. -/
def reconcile (manifest : Option IdentityMetadata) (owner : Username)
    (live : List IdentityId) : Except CatalogError StandardIdentityCatalog :=
  if hlive : ValidIds live then
    match manifest with
    | some manifest =>
      if manifest.owner ≠ owner then .error .ownerMismatch
      else if hentries : ValidIds (manifest.identities.map IdentityMetadataEntry.id) then
        if !sameIdentitySet manifest.identities live then .error .identitySetMismatch
        else .ok ⟨owner, manifest.identities, hentries⟩
      else .error (idsError (manifest.identities.map IdentityMetadataEntry.id))
    | none =>
      .ok ⟨owner, live.map fun id => ⟨id, none⟩, by
        simpa [Function.comp_def] using hlive⟩
  else .error (idsError live)

def labeledIdentities (catalog : StandardIdentityCatalog) : List Identity :=
  catalog.identities.filterMap fun entry => entry.finger.map fun finger => ⟨entry.id, finger⟩

def containsLabeled (catalog : StandardIdentityCatalog) (id : IdentityId) : Bool :=
  catalog.identities.any fun entry => entry.id = id && entry.finger.isSome

/-- The id belongs to a recovery anchor that standard clients must not see. -/
def Hidden (catalog : StandardIdentityCatalog) (id : IdentityId) : Prop :=
  ∃ entry ∈ catalog.identities, entry.id = id ∧ entry.finger = none

variable {id : IdentityId}

lemma mem_labeledIdentities : identity ∈ catalog.labeledIdentities ↔
      ⟨identity.id, some identity.finger⟩ ∈ catalog.identities := by
  unfold labeledIdentities
  rw [List.mem_filterMap]
  constructor
  · rintro ⟨⟨id, finger⟩, hmem, hmap⟩
    obtain ⟨label, rfl, rfl⟩ := Option.map_eq_some_iff.mp hmap
    exact hmem
  · intro hmem
    exact ⟨_, hmem, rfl⟩

lemma containsLabeled_of_mem (h : identity ∈ catalog.labeledIdentities) :
    catalog.containsLabeled identity.id = true ∧ ¬ catalog.Hidden identity.id := by
  have hmem := mem_labeledIdentities.mp h
  constructor
  · unfold containsLabeled
    rw [List.any_eq_true]
    exact ⟨_, hmem, by simp⟩
  · rintro ⟨entry, hentry, hid, hfinger⟩
    -- two entries with one id are the same entry
    have heq := List.inj_on_of_nodup_map catalog.valid.2 hentry hmem hid
    rw [heq] at hfinger
    cases hfinger

end StandardIdentityCatalog

/-! ### Loading the committed state -/

inductive CatacombStoreError where
  | missingPair | incompletePair | invalidBlob | invalidMetadata | storageUnavailable
  | unsafeStorage | pendingExport | invalidTransactionState | promotionDurabilityUnknown
deriving DecidableEq

inductive EnrollmentOwnerError where
  | invalidOwner | missingOwner | differentOwner | unsafeStorage | corruptState
  | storageUnavailable
deriving DecidableEq

/-- A recorded owner is never root. -/
structure EnrollmentOwner where
  raw : UInt32
  ne_root : raw ≠ 0

/-- One committed generation, as far as its manifest goes. -/
structure CatacombPair where
  metadata : Option Packet

inductive StandardCatalogStoreError where
  | pairStore (error : CatacombStoreError)
  | ownerStore (error : EnrollmentOwnerError)
  | metadata (error : MetadataError)
  | accountLookup (error : NssAccountError)
  | missingMetadata
  | accountChanged
  | accountMismatch
  | ownerMismatch
  | catalog (error : CatalogError)

/-- What the two stores and the account database return to one worker. -/
structure CommittedStores where
  pair : Except CatacombStoreError CatacombPair
  owner : Except EnrollmentOwnerError EnrollmentOwner
  resolve : Resolve

/-- What a list request is answered with. -/
structure CommittedStandardIdentityList where
  owner : Option Username
  identities : List Identity

def CommittedStandardIdentityList.intoServerMessage (list : CommittedStandardIdentityList) :
    ServerMessage :=
  .identityList list.owner list.identities

namespace CommittedStores

def decodeManifest (pair : CatacombPair) :
    Except StandardCatalogStoreError (Option IdentityMetadata) :=
  match pair.metadata.map decodeMetadata with
  | none => .ok none
  | some (.ok manifest) => .ok (some manifest)
  | some (.error error) => .error (.metadata error)

variable (c : CommittedStores)

def loadCommittedState :
    Except StandardCatalogStoreError (EnrollmentOwner × Option IdentityMetadata) := do
  let pair ← c.pair.mapError .pairStore
  let recordedOwner ← c.owner.mapError .ownerStore
  return (recordedOwner, ← decodeManifest pair)

variable (manifest : IdentityMetadata)

def requireManifestAccount (recordedOwner : EnrollmentOwner)
    (account : ResolvedStandardAccount) : Except StandardCatalogStoreError Unit :=
  if manifest.owner ≠ account.canonicalUsername then .error .accountMismatch
  else if recordedOwner.raw ≠ account.userId then .error .ownerMismatch
  else .ok ()

def reconcileManifest : Except StandardCatalogStoreError StandardIdentityCatalog :=
  (StandardIdentityCatalog.reconcile (some manifest) manifest.owner
    (manifest.identities.map IdentityMetadataEntry.id)).mapError .catalog

/-- The committed catalog of one account, which is looked up again. -/
def loadCommittedCatalogForAccount (account : ResolvedStandardAccount) :
    Except StandardCatalogStoreError StandardIdentityCatalog := do
  let (recordedOwner, manifest) ← c.loadCommittedState
  match manifest with
  | none => .error .missingMetadata
  | some manifest =>
    let current ← (c.resolve account.canonicalUsername).mapError .accountLookup
    if current ≠ account then .error .accountChanged
    requireManifestAccount manifest recordedOwner current
    reconcileManifest manifest

/-- The standard-visible listing; a generation without a manifest shows nothing. -/
def loadCommittedStandardList : Except StandardCatalogStoreError CommittedStandardIdentityList :=
  match c.pair with
  | .error .missingPair =>
    match c.owner with
    | .error .missingOwner => .ok ⟨none, []⟩
    | .ok _ => .error (.pairStore .missingPair)
    | .error error => .error (.ownerStore error)
  | .error error => .error (.pairStore error)
  | .ok pair => do
    let recordedOwner ← c.owner.mapError .ownerStore
    match ← decodeManifest pair with
    | none => .ok ⟨none, []⟩
    | some manifest =>
      let account ← (c.resolve manifest.owner).mapError .accountLookup
      requireManifestAccount manifest recordedOwner account
      let catalog ← reconcileManifest manifest
      let identities := catalog.labeledIdentities
      return ⟨if identities.isEmpty then none else some account.canonicalUsername, identities⟩

/-- The catalog of the committed generation, for whichever account. -/
def catalog? (c : CommittedStores) : Option StandardIdentityCatalog :=
  match c.loadCommittedState with
  | .ok (_, some manifest) => (reconcileManifest manifest).toOption
  | _ => none

variable {c} {recordedOwner : EnrollmentOwner} {manifest}

/-- A listing is empty or lists exactly the labelled identities of the catalog. -/
lemma catalog?_of_listed {list : CommittedStandardIdentityList}
    (h : c.loadCommittedStandardList = .ok list) : list.identities = [] ∨
      ∃ catalog, c.catalog? = some catalog ∧ list.identities = catalog.labeledIdentities := by
  unfold loadCommittedStandardList at h
  split at h
  · split at h <;> cases h
    exact .inl rfl
  · cases h
  next pair hpair =>
  simp only [bind, Except.bind] at h
  split at h
  · cases h
  next recordedOwner howner =>
  split at h
  · cases h
  next manifest hmanifest =>
  have hstate : c.loadCommittedState = .ok (recordedOwner, manifest) := by
    have hp : c.pair.mapError StandardCatalogStoreError.pairStore = .ok pair := by
      rw [hpair]
      rfl
    simp only [loadCommittedState, hp, howner, hmanifest, bind, Except.bind]
    rfl
  split at h
  · cases h
    exact .inl rfl
  split at h
  · cases h
  split at h
  · cases h
  split at h
  · cases h
  next catalog hcatalog =>
  cases h
  refine .inr ⟨catalog, ?_, rfl⟩
  simp only [catalog?, hstate, hcatalog]
  rfl

end CommittedStores

end T1Bridge
