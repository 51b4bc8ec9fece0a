import T1Bridge.Store.Catacomb

/-! # Reservation of a legacy generation

`reserve_unique_inactive_legacy_recovery` reserves the one inactive generation without metadata
of a store whose active generation has labels. -/

namespace T1Bridge.Store

inductive LegacyRecoveryReservation where
  | created | existing

inductive LegacyRecoveryReservationError where
  | refused
  | store (error : CatacombStoreError)

/-- A pair with metadata, or one from before there was any. -/
inductive GenerationKind where
  | labeled | legacy

structure Generation where
  name : Name
  kind : GenerationKind

abbrev LegacyM := ExceptT LegacyRecoveryReservationError HostProg

/-- A store function whose error is passed on. -/
def fromStore {α : Type} (x : StoreM α) : LegacyM α :=
  ExceptT.mk (Except.mapError .store <$> x.run)

/-- The generations of a listing, when nothing of it is staged or malformed. -/
def legacyRecoveryNames : List Name → Except LegacyRecoveryReservationError (List Name)
  | [] => .ok []
  | name :: names =>
    if !isText name then .error (.store .unsafeStorage)
    else if name == activeMarker || recoveryDash.isPrefixOf name then legacyRecoveryNames names
    else if pairDash.isPrefixOf name then
      if !isGenerationName name then .error .refused
      else (name :: ·) <$> legacyRecoveryNames names
    else if stageDash.isPrefixOf name || activeDash.isPrefixOf name || isStageName name ||
        isMarkerTemporaryName name then .error .refused
    else legacyRecoveryNames names

def generationKind (pair : CatacombPair) : Except LegacyRecoveryReservationError GenerationKind :=
  match pair.metadata with
  | none => .ok .legacy
  | some encoded =>
    match decodeMetadata encoded with
    | .error _ => .error (.store .invalidMetadata)
    | .ok metadata =>
      if metadata.identities.any fun identity => identity.finger.isSome then .ok .labeled
      else .error .refused

def readGenerations : List Name → LegacyM (List Generation)
  | [] => pure []
  | name :: names => do
    let pair ← fromStore (readPair name)
    let kind ← ExceptT.mk (pure (generationKind pair))
    let generations ← readGenerations names
    pure (⟨name, kind⟩ :: generations)

def legacyRecoveryGenerations (active : Name) : LegacyM (List Generation) := do
  let entries ← fromStore (unavailable (.readDirectory []))
  let names ← ExceptT.mk (pure (legacyRecoveryNames entries))
  if !(sortNames names).contains active then throw .refused
  else readGenerations (sortNames names)

def createReservation (directory : Ref) (name : Name) : StoreM Unit := do
  let marker ← unavailable (.createFile [] name 0o600)
  let metadata ← unavailable (.metadata marker)
  validatePrivateFileMetadata metadata
  unavailable (.sync marker)
  unavailable (.sync directory)

/-- The reservation of a generation: its token, or nothing when it has none. -/
def legacyRecoveryName (generation : Name) : Name :=
  recoveryName ((generation.dropPrefix? pairDash).getD [])

/-- The labeled generation and the legacy one. -/
def legacyPair : List Generation → Except LegacyRecoveryReservationError (Name × Name)
  | [⟨labeled, .labeled⟩, ⟨legacy, .legacy⟩] | [⟨legacy, .legacy⟩, ⟨labeled, .labeled⟩] =>
    .ok (labeled, legacy)
  | _ => .error .refused

def reserveUniqueInactiveLegacyRecovery : LegacyM LegacyRecoveryReservation := do
  let directory ← fromStore openExistingDirectory
  fromStore (unavailable (.sync directory))
  let active ← fromStore readActiveGeneration
  let generations ← legacyRecoveryGenerations active
  let (labeled, legacy) ← ExceptT.mk (pure (legacyPair generations))
  let tokens ← fromStore recoveryTokens
  match tokens with
  | [] =>
    if active == labeled then
      fromStore (createReservation directory (legacyRecoveryName legacy))
      pure .created
    else throw .refused
  | [token] =>
    if generationName token == legacy && (active == labeled || active == legacy) then
      pure .existing
    else throw .refused
  | _ :: _ :: _ => throw .refused

end T1Bridge.Store
