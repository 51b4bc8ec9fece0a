import T1Bridge.Auth.Catalog
import T1Bridge.Store.Host

/-! # The catacomb store

The store keeps pairs of a master and a user catacomb, with the identity metadata, in one
directory.  Each generation is a directory of its own; the file `active` names the one in use.
The functions below are the store's, in its order of file system calls. -/

namespace T1Bridge.Store

open ExceptT (lift)

def maxMarkerSize : ℕ := 128

def maxSecureCatacombSize : ℕ := 16 * 1024 * 1024 - 8

/-- The two secure blobs and the identity metadata. -/
structure CatacombPair where
  master : List UInt8
  user : List UInt8
  metadata : Option (List UInt8)
deriving DecidableEq

/-- The files of the pair that are durable. -/
inductive TransactionState where
  | empty | metadataDurable | userDurable | pairDurable
deriving DecidableEq

/-- A transaction; its paths are the names of its token. -/
structure CatacombPairTransaction where
  directory : Ref
  token : Name
  state : TransactionState
  generationRenamed : Bool
  markerReplaced : Bool
  recoveryReserved : Bool

/-- Store functions: they ask the host and fail with a store error. -/
abbrev StoreM := ExceptT CatacombStoreError HostProg

/-- What a store function returns. -/
abbrev Outcome := Except CatacombStoreError

/-- Methods of a transaction; what they changed of it stays when they fail. -/
abbrev TransactionM (α : Type) : Type :=
  Prog.Method HostOp HostOp.Answer CatacombStoreError CatacombPairTransaction α

/-- A call whose error the caller looks at. -/
def attempt (o : FileOp Name) : StoreM (Except FileError o.Value) := lift (call o)

/-- A call whose every error is reported as unavailable storage. -/
def unavailable (o : FileOp Name) : StoreM o.Value := do
  match ← attempt o with
  | .ok value => pure value
  | .error _ => throw .storageUnavailable

/-! ### Checks -/

def effectiveUid : StoreM ℕ := do
  match ← lift (Prog.perform HostOp.effectiveUid : HostProg (Option ℕ)) with
  | some uid => pure uid
  | none => throw .storageUnavailable

def validateFileIdentity (isFile : Bool) (mode owner linkCount expectedOwner : ℕ) :
    Outcome Unit :=
  if !isFile || mode &&& 0o777 != 0o600 || owner != expectedOwner || linkCount != 1 then
    .error .unsafeStorage
  else .ok ()

def validatePrivateFileMetadata (metadata : Metadata) : StoreM Unit := do
  let uid ← effectiveUid
  ExceptT.mk (pure (validateFileIdentity (metadata.attributes.kind == .regular)
    metadata.attributes.mode metadata.attributes.owner.uid metadata.links uid))

def validateDirectoryMetadata (metadata : Metadata) : StoreM Unit := do
  if metadata.attributes.kind != .directory || metadata.attributes.mode &&& 0o777 != 0o700 then
    throw .unsafeStorage
  else
    let uid ← effectiveUid
    if metadata.attributes.owner.uid != uid then throw .unsafeStorage else pure ()

def validateBlob (blob : List UInt8) : Outcome Unit :=
  if blob.isEmpty || blob.length > maxSecureCatacombSize then .error .invalidBlob else .ok ()

def validateMetadata (metadata : List UInt8) : Outcome Unit :=
  if metadata.length > maxManifestSize || !(decodeMetadata metadata).isOk then
    .error .invalidMetadata
  else .ok ()

/-! ### Reading -/

def openExistingDirectory : StoreM Ref := do
  match ← attempt (.openDirectory []) with
  | .ok directory =>
    let metadata ← unavailable (.metadata directory)
    validateDirectoryMetadata metadata
    pure directory
  | .error .notFound => throw .missingPair
  | .error _ => throw .unsafeStorage

/-- What a marker says: the generation it names. -/
def markerGeneration (bytes : List UInt8) : Outcome Name :=
  if isText bytes then
    match bytes.dropSuffix? [10] with
    | some generation =>
      if isGenerationName generation then .ok generation else .error .unsafeStorage
    | none => .error .unsafeStorage
  else .error .unsafeStorage

/-- What the readers of private files share: the file is checked, its size must not be `bad`,
`read_exact` takes that size, and a further read must find the end. -/
def readChecked (file : Ref) (bad : ℕ → Bool) (error trailing : CatacombStoreError) :
    StoreM (List UInt8) := do
  let metadata ← unavailable (.metadata file)
  validatePrivateFileMetadata metadata
  if bad metadata.length then throw error
  else
    let bytes ← unavailable (.read file)
    if bytes.length < metadata.length then throw .storageUnavailable
    else if metadata.length < bytes.length then throw trailing
    else pure bytes

def readActiveGeneration : StoreM Name := do
  match ← attempt (.openFile [activeMarker]) with
  | .ok marker =>
    let bytes ← readChecked marker (fun size => size == 0 || size > maxMarkerSize)
      .unsafeStorage .unsafeStorage
    ExceptT.mk (pure (markerGeneration bytes))
  | .error .notFound => throw .missingPair
  | .error _ => throw .unsafeStorage

variable (path : List Name)

def openCheckedDirectory : StoreM Ref := do
  match ← attempt (.openDirectory path) with
  | .ok directory =>
    let metadata ← unavailable (.metadata directory)
    validateDirectoryMetadata metadata
    pure directory
  | .error .notFound => throw .unsafeStorage
  | .error _ => throw .unsafeStorage

def readBlob : StoreM (List UInt8) := do
  match ← attempt (.openFile path) with
  | .ok file =>
    readChecked file (fun size => size == 0 || size > maxSecureCatacombSize)
      .invalidBlob .invalidBlob
  | .error .notFound => throw .incompletePair
  | .error _ => throw .unsafeStorage

def readMetadata : StoreM (Option (List UInt8)) := do
  match ← attempt (.openFile path) with
  | .ok file =>
    let metadata ← readChecked file (fun size => size > maxManifestSize)
      .invalidMetadata .invalidMetadata
    ExceptT.mk (pure (validateMetadata metadata))
    pure (some metadata)
  | .error .notFound => pure none
  | .error _ => throw .unsafeStorage

def readPair (generation : Name) : StoreM CatacombPair := do
  let _ ← openCheckedDirectory [generation]
  let master ← readBlob [generation, masterFile]
  let user ← readBlob [generation, userFile]
  let metadata ← readMetadata [generation, identityMetadataFile]
  pure ⟨master, user, metadata⟩

def load : StoreM CatacombPair := do
  let _ ← openExistingDirectory
  let generation ← readActiveGeneration
  readPair generation

/-! ### Listings -/

/-- The bytes order of file names and tokens. -/
def sortNames (names : List Name) : List Name := names.mergeSort fun a b => decide (a ≤ b)

variable (name : Name)

/-- The names that keep an unclaimed store from counting as empty. -/
def isStoreName : Bool :=
  name == activeMarker || pairDash.isPrefixOf name || stageDash.isPrefixOf name ||
    recoveryDash.isPrefixOf name || activeDash.isPrefixOf name

def isEmptyFor : List Name → Outcome Bool
  | [] => .ok true
  | name :: names =>
    if !isText name then .error .unsafeStorage
    else if isStoreName name then .ok false
    else isEmptyFor names

def isEmptyForFirstOwner : StoreM Bool := do
  match ← lift openExistingDirectory.run with
  | .error .missingPair => pure true
  | .error error => throw error
  | .ok _ =>
    let names ← unavailable (.readDirectory [])
    ExceptT.mk (pure (isEmptyFor names))

def rejectRecoveryNames : List Name → Outcome Unit
  | [] => .ok ()
  | name :: names =>
    if !isText name then .error .unsafeStorage
    else if recoveryDash.isPrefixOf name then .error .pendingExport
    else rejectRecoveryNames names

def rejectRecoveryState : StoreM Unit := do
  let names ← unavailable (.readDirectory [])
  ExceptT.mk (pure (rejectRecoveryNames names))

def recoveryTokensOf : List Name → StoreM (List Name)
  | [] => pure []
  | name :: names =>
    if !isText name then throw .unsafeStorage
    else
      match name.dropPrefix? recoveryDash with
      | none => recoveryTokensOf names
      | some token =>
        if !isToken token then throw .unsafeStorage
        else do
          let metadata ← unavailable (.symlinkMetadata [name])
          validatePrivateFileMetadata metadata
          if metadata.length != 0 then throw .unsafeStorage
          else
            let tokens ← recoveryTokensOf names
            pure (token :: tokens)

def recoveryTokens : StoreM (List Name) := do
  let names ← unavailable (.readDirectory [])
  let tokens ← recoveryTokensOf names
  pure (sortNames tokens)

/-! ### Writing and removing -/

def createPrivateDirectory : StoreM Unit := do
  unavailable (.createDirectory [] name 0o700)
  unavailable (.setPathPermissions [name] 0o700)

def writeNewBlob (directory name : Name) (blob : List UInt8) : StoreM Unit := do
  let file ← unavailable (.createFile [directory] name 0o600)
  unavailable (.setPermissions file 0o600)
  unavailable (.write file blob)
  unavailable (.sync file)

def writeMarker (name generation : Name) : StoreM Unit := do
  let file ← unavailable (.createFile [] name 0o600)
  unavailable (.setPermissions file 0o600)
  unavailable (.write file generation)
  unavailable (.write file [10])
  unavailable (.sync file)

def syncDirectory : StoreM Unit := do
  let directory ← openCheckedDirectory [name]
  unavailable (.sync directory)

def removePrivateFile (parent : List Name) (name : Name) : StoreM Unit := do
  match ← attempt (.symlinkMetadata (parent ++ [name])) with
  | .ok metadata =>
    validatePrivateFileMetadata metadata
    unavailable (.removeFile parent name)
  | .error .notFound => pure ()
  | .error _ => throw .storageUnavailable

def isPairFile : Bool :=
  name == masterFile || name == userFile || name == identityMetadataFile

def removePairFiles (directory : Name) : List Name → StoreM Unit
  | [] => pure ()
  | name :: names =>
    if !isText name || !isPairFile name then throw .unsafeStorage
    else do
      removePrivateFile [directory] name
      removePairFiles directory names

def removePrivateGeneration : StoreM Unit := do
  match ← attempt (.symlinkMetadata [name]) with
  | .ok metadata =>
    validateDirectoryMetadata metadata
    let entries ← unavailable (.readDirectory [name])
    removePairFiles name entries
    unavailable (.removeDirectory [] name)
  | .error .notFound => pure ()
  | .error _ => throw .storageUnavailable

/-! ### Transactions -/

/-- The source asks `exists()`, which follows a symbolic link.  The two differ for a link that
leads nowhere, which is refused either way. -/
def prepareDirectory : StoreM Ref := do
  match ← attempt (.symlinkMetadata []) with
  | .ok _ => openExistingDirectory
  | .error _ =>
    unavailable (.createRoot 0o700)
    unavailable (.setPathPermissions [] 0o700)
    openExistingDirectory

def beginTransaction : StoreM CatacombPairTransaction := do
  let directory ← prepareDirectory
  rejectRecoveryState
  let seed ← lift (Prog.perform HostOp.artifactToken : HostProg ArtifactSeed)
  let token := artifactToken seed
  createPrivateDirectory (stageName token)
  pure ⟨directory, token, .empty, false, false, false⟩

/-- A store function inside a method. -/
def storeStep {α : Type} (x : StoreM α) : TransactionM α := ExceptT.mk (StateT.lift x.run)

def ofExcept {α : Type} (x : Outcome α) : TransactionM α :=
  ExceptT.mk (pure x)

namespace CatacombPairTransaction

variable (tx : CatacombPairTransaction)

def writeDirectory : Name :=
  if tx.generationRenamed then generationName tx.token else stageName tx.token

def reserveRecovery : TransactionM Unit := do
  let tx ← get
  if tx.state != .empty || tx.recoveryReserved then throw .invalidTransactionState
  else
    storeStep (unavailable (.rename [] (stageName tx.token) (generationName tx.token)))
    modify fun tx => { tx with generationRenamed := true }
    storeStep (unavailable (.sync tx.directory))
    let marker ← storeStep (unavailable (.createFile [] (recoveryName tx.token) 0o600))
    modify fun tx => { tx with recoveryReserved := true }
    storeStep (unavailable (.setPermissions marker 0o600))
    storeStep (unavailable (.sync marker))
    storeStep (unavailable (.sync tx.directory))

/-- The part the three `write_*` methods share: the file and then its directory are made
durable before the state moves on. -/
def writeMember (name : Name) (blob : List UInt8) (next : TransactionState) :
    TransactionM Unit := do
  let tx ← get
  storeStep (writeNewBlob tx.writeDirectory name blob)
  storeStep (syncDirectory tx.writeDirectory)
  modify fun tx => { tx with state := next }

def writeMetadata (metadata : List UInt8) : TransactionM Unit := do
  let tx ← get
  if tx.state != .empty || !tx.recoveryReserved then throw .invalidTransactionState
  else
    ofExcept (validateMetadata metadata)
    writeMember identityMetadataFile metadata .metadataDurable

def writeUser (user : List UInt8) : TransactionM Unit := do
  let tx ← get
  if tx.state != .empty && tx.state != .metadataDurable then throw .invalidTransactionState
  else
    ofExcept (validateBlob user)
    writeMember userFile user .userDurable

def writeMaster (master : List UInt8) : TransactionM Unit := do
  let tx ← get
  if tx.state != .userDurable then throw .invalidTransactionState
  else
    ofExcept (validateBlob master)
    writeMember masterFile master .pairDurable

/-- The generation takes its final name, unless the reservation gave it that name already. -/
def renameGeneration : TransactionM Unit := do
  let tx ← get
  if tx.generationRenamed then pure ()
  else
    storeStep (unavailable (.rename [] (stageName tx.token) (generationName tx.token)))
    modify fun tx => { tx with generationRenamed := true }
    storeStep (unavailable (.sync tx.directory))

def replaceMarker : TransactionM Unit := do
  let tx ← get
  storeStep (writeMarker (markerTemporaryName tx.token) (generationName tx.token))
  storeStep (unavailable (.rename [] (markerTemporaryName tx.token) activeMarker))
  modify fun tx => { tx with markerReplaced := true }
  match ← storeStep (attempt (.sync tx.directory)) with
  | .ok _ => pure ()
  | .error _ => throw .promotionDurabilityUnknown

def releaseRecovery : TransactionM Unit := do
  let tx ← get
  if tx.recoveryReserved then
    storeStep (removePrivateFile [] (recoveryName tx.token))
    storeStep (unavailable (.sync tx.directory))
    modify fun tx => { tx with recoveryReserved := false }
  else pure ()

def promoteInner (beforeMarker : StoreM Unit) (preserveOnFailure : Bool) : TransactionM Unit := do
  let tx ← get
  if tx.state != .pairDurable || preserveOnFailure && !tx.recoveryReserved then
    throw .invalidTransactionState
  else
    renameGeneration
    storeStep beforeMarker
    replaceMarker
    releaseRecovery

def promote : TransactionM Unit := promoteInner (pure ()) false

def promoteAfterNativeFinish : TransactionM Unit := promoteInner (pure ()) true

/-- The transaction goes out of scope. -/
def drop : HostProg Unit := do
  let _ ← (removePrivateFile [] (markerTemporaryName tx.token)).run
  if tx.recoveryReserved then pure ()
  else
    let _ ← (removePrivateGeneration (stageName tx.token)).run
    if tx.markerReplaced then pure ()
    else
      let _ ← (removePrivateGeneration (generationName tx.token)).run
      pure ()

/-- Run methods on a transaction that is dropped after them. -/
def owned {α : Type} (tx : CatacombPairTransaction) (body : TransactionM α) : StoreM α :=
  ExceptT.mk do
    let (result, tx) ← body.run.run tx
    tx.drop
    pure result

end CatacombPairTransaction

open CatacombPairTransaction in
def commitInner (user master : List UInt8) (beforePromotion : StoreM Unit) : StoreM Unit := do
  ExceptT.mk (pure (validateBlob user))
  ExceptT.mk (pure (validateBlob master))
  let tx ← beginTransaction
  tx.owned do
    writeUser user
    writeMaster master
    promoteInner beforePromotion false

def commit (user master : List UInt8) : StoreM Unit := commitInner user master (pure ())

/-! ### Recovery -/

/-- What `recover_with_validator` did. -/
inductive CatacombRecoveryOutcome where
  | clean | promoted | quarantined

inductive CatacombRecoveryError (ε : Type) where
  | store (error : CatacombStoreError)
  | validator (error : ε)

/-- `Err(MissingPair)` of the marker is no active generation. -/
def activeGeneration : StoreM (Option Name) := do
  match ← lift readActiveGeneration.run with
  | .ok generation => pure (some generation)
  | .error .missingPair => pure none
  | .error error => throw error

def recoverEntry (active : Option Name) (tokens : List Name) (name : Name) : StoreM Unit :=
  if !isText name then throw .unsafeStorage
  else if name == activeMarker || active == some name then pure ()
  else
    match (name.dropPrefix? stageDash).filter fun _ => isStageName name with
    | some token => if tokens.contains token then pure () else removePrivateGeneration name
    | none =>
      match (name.dropPrefix? pairDash).filter fun _ => isGenerationName name with
      | some token => if tokens.contains token then pure () else removePrivateGeneration name
      | none => if isMarkerTemporaryName name then removePrivateFile [] name else pure ()

def recoverEntries (active : Option Name) (tokens : List Name) : List Name → StoreM Unit
  | [] => pure ()
  | name :: names => do
    recoverEntry active tokens name
    recoverEntries active tokens names

def recover : StoreM Unit := do
  let directory ← openExistingDirectory
  unavailable (.sync directory)
  let active ← activeGeneration
  if active.isSome then
    let _ ← load
  let names ← unavailable (.readDirectory [])
  let tokens ← recoveryTokens
  recoverEntries active tokens (sortNames names)
  unavailable (.sync directory)

/-- Store functions around a validator of their caller. -/
abbrev RecoveryM (ε : Type) := ExceptT (CatacombRecoveryError ε) HostProg

def storeError {ε α : Type} (x : StoreM α) : RecoveryM ε α :=
  ExceptT.mk (Except.mapError .store <$> x.run)

variable {ε : Type}

/-- The marker is written beside the active one and takes its place. -/
def promoteCandidate (directory : Ref) (token : Name) : RecoveryM ε Unit := do
  storeError (removePrivateFile [] (markerTemporaryName token))
  storeError (writeMarker (markerTemporaryName token) (generationName token))
  match ← lift (call (.rename [] (markerTemporaryName token) activeMarker)) with
  | .error _ =>
    let _ ← lift (removePrivateFile [] (markerTemporaryName token)).run
    throw (.store .storageUnavailable)
  | .ok _ =>
    match ← lift (call (.sync directory)) with
    | .ok _ => pure ()
    | .error _ => throw (.store .promotionDurabilityUnknown)

/-- The only reserved generation, when it is complete and can be read. -/
def recoveryCandidate (tokens : List Name) :
    RecoveryM ε (Except CatacombRecoveryOutcome (Name × CatacombPair)) := do
  match tokens with
  | [] => pure (.error .clean)
  | [token] =>
    let stage ← lift (call (.symlinkMetadata [stageName token]))
    let generation ← lift (call (.symlinkMetadata [generationName token]))
    if stage.isOk || !generation.isOk then pure (.error .quarantined)
    else
      match ← lift (readPair (generationName token)).run with
      | .ok pair => pure (.ok (token, pair))
      | .error .incompletePair | .error .invalidBlob | .error .invalidMetadata
      | .error .unsafeStorage => pure (.error .quarantined)
      | .error error => throw (.store error)
  | _ :: _ :: _ => pure (.error .quarantined)

def promoteRecovered (directory : Ref) (token : Name) : RecoveryM ε CatacombRecoveryOutcome := do
  let active ← storeError activeGeneration
  if active != some (generationName token) then promoteCandidate directory token
  storeError (removePrivateFile [] (recoveryName token))
  storeError (unavailable (.sync directory))
  pure .promoted

/-- Up to the validator: the candidate and the open store directory, or the outcome without one. -/
def findCandidate : RecoveryM ε (Except CatacombRecoveryOutcome (Ref × Name × CatacombPair)) := do
  match ← lift openExistingDirectory.run with
  | .error .missingPair => pure (.error .clean)
  | .error error => throw (.store error)
  | .ok directory =>
    storeError (unavailable (.sync directory))
    match ← lift recoveryTokens.run with
    | .error .unsafeStorage | .error .incompletePair => pure (.error .quarantined)
    | .error error => throw (.store error)
    | .ok tokens =>
      match ← recoveryCandidate tokens with
      | .error outcome => pure (.error outcome)
      | .ok (token, pair) => pure (.ok (directory, token, pair))

variable (validator : CatacombPair → HostProg (Except ε Bool))

/-- From the validator on. -/
def judgeCandidate (directory : Ref) (token : Name) (pair : CatacombPair) :
    RecoveryM ε CatacombRecoveryOutcome := do
  match ← lift (validator pair) with
  | .error error => throw (.validator error)
  | .ok false => pure .quarantined
  | .ok true => promoteRecovered directory token

def recoverWithValidator : RecoveryM ε CatacombRecoveryOutcome := do
  match ← findCandidate with
  | .error outcome => pure outcome
  | .ok (directory, token, pair) => judgeCandidate validator directory token pair

end T1Bridge.Store
