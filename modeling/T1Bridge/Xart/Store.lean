import T1Bridge.Lib.Bytes
import T1Bridge.Lib.Pinned
import T1Bridge.Lib.Program
import T1Bridge.Wire.Plist

/-! # The xART store

The anti-replay record of the device is one file.  `fetch` reads it, and `save` writes a new
file, synchronises it, renames it over the record and synchronises the directory.  The functions
are the store's, in its order of file system calls.  Paths are below the store's directory. -/

namespace T1Bridge.Xart

open Wire

abbrev Name := List UInt8

def xartMaxPayloadSize : ℕ := 0x3fef

def recordFileName : Name := ascii ['r', 'e', 'c', 'o', 'r', 'd', '.', 'x', 'a', 'r', 't']

/-! ### The machine the service runs on -/

structure Frame where
  messageType : ℕ
  body : Packet
deriving DecidableEq

/-- The part of a frame that a transfer failed in. -/
inductive FramePart where
  | header | body
deriving DecidableEq

inductive FrameError where
  | incompleteHeader (available : ℕ)
  | invalidMagic (actual : ℕ)
  | unsupportedVersion (actual : ℕ)
  | bodyTooLarge (declared maximum : ℕ)
  | incompleteBody (declared available : ℕ)
  | trailingBytes (count : ℕ)
deriving DecidableEq

inductive TransportError where
  | frame (error : FrameError)
  | unexpectedEof (part : FramePart)
  | connectionClosed
  | writeZero (part : FramePart)
  | allocationFailed (bodyLen : ℕ)
  | io (part : FramePart)
deriving DecidableEq

/-- What the service asks for. -/
inductive XartOp where
  | file (o : FileOp Name)
  | effectiveUid
  | receiveFrame
  | sendFrame (frame : Frame)

def XartOp.Answer : XartOp → Type
  | file o => Except FileError o.Value
  | effectiveUid => Option ℕ
  | receiveFrame => Except TransportError Frame
  | sendFrame _ => Except TransportError Unit

/-- What happened on the connections, and where the service was started again. -/
inductive Happening where
  | received (result : Except TransportError Frame)
  | sent (frame : Frame) (result : Except TransportError Unit)
  | restarted
deriving DecidableEq

/-- The file system, who asks, and what happened. -/
structure World where
  fs : FileSystem Name
  bounded : fs.Bounded
  who : Credentials
  log : List Happening

/-- One decision of everything the service does not control. -/
structure Choice where
  fault : Option (List UInt8)
  order : List Name
  received : Except TransportError Frame
  sent : Except TransportError Unit

namespace World

def record (w : World) (h : Happening) : World := { w with log := w.log ++ [h] }

def exec (c : Choice) (w : World) : (op : XartOp) → op.Answer × World
  | .file o =>
    ((w.fs.exec w.who c.fault c.order o).1,
      { w with
        fs := (w.fs.exec w.who c.fault c.order o).2
        bounded := FileSystem.exec_bounded w.bounded w.who c.fault c.order o })
  | .effectiveUid => (if c.fault.isSome then none else some w.who.uid, w)
  | .receiveFrame => (c.received, w.record (.received c.received))
  | .sendFrame frame => (c.sent, w.record (.sent frame c.sent))

end World

/-- The call reads the bytes of a file. -/
def XartOp.IsRead : XartOp → Prop
  | .file (.read _) => True
  | _ => False

/-- The machine.  Any call can fail; with `reads`, the calls that read a file do not. -/
def Host (reads : Prop) : Environment XartOp XartOp.Answer World Choice where
  admissible c _ op := reads → op.IsRead → c.fault = none
  exec := World.exec

instance : ∀ op : XartOp, Decidable op.IsRead
  | .file o => by
    cases o <;> first | exact isTrue trivial | exact isFalse id
  | .effectiveUid | .receiveFrame | .sendFrame _ => isFalse id

instance (reads : Prop) [Decidable reads] (c : Choice) (w : World) (op : XartOp) :
    Decidable ((Host reads).admissible c w op) :=
  inferInstanceAs (Decidable (reads → op.IsRead → c.fault = none))

abbrev XartProg := Prog XartOp XartOp.Answer

def call (o : FileOp Name) : XartProg (Except FileError o.Value) := Prog.perform (XartOp.file o)

def readStatus : XartProg (Option ℕ) := Prog.perform XartOp.effectiveUid

def receiveFrame : XartProg (Except TransportError Frame) := Prog.perform XartOp.receiveFrame

def sendFrame (frame : Frame) : XartProg (Except TransportError Unit) :=
  Prog.perform (XartOp.sendFrame frame)

/-! ### The store -/

inductive XartStoreError where
  | invalidWireBlob | storageUnavailable | unsafeStorage | invalidStoredBlob

/-- What a fetch answers. -/
structure FetchedXart where
  wireBlob : Packet
  volumeId : Packet
  volumeExternal : Bool

/-- The admitted device; its directory is the root of the file system. -/
structure XartStore where
  volumeId : Packet
  volumeExternal : Bool
  length_eq : volumeId.length = 16

/-- Store functions: they ask the machine and fail with a store error. -/
abbrev XartM := ExceptT XartStoreError XartProg

def attempt (o : FileOp Name) : XartM (Except FileError o.Value) :=
  ExceptT.lift (call o)

/-- A call whose failure is reported as this error. -/
def orElse (error : XartStoreError) (o : FileOp Name) : XartM o.Value := do
  match ← attempt o with
  | .ok value => pure value
  | .error _ => throw error

def effectiveUid : XartM ℕ := do
  match ← ExceptT.lift readStatus with
  | some uid => pure uid
  | none => throw .storageUnavailable

/-- The payload with its length before it. -/
def wireBlob (payload : Packet) : Packet := leBytes 4 payload.length ++ payload

variable (store : XartStore)

def XartStore.fetched (payload : Packet) : Except XartStoreError FetchedXart :=
  if payload.length < 2 ^ 32 then .ok ⟨wireBlob payload, store.volumeId, store.volumeExternal⟩
  else .error .invalidStoredBlob

def validateWireBlob (wireBlob : Packet) : Except XartStoreError Packet :=
  if wireBlob.length < 4 then .error .invalidWireBlob
  else if fromLe (wireBlob.take 4) = 0 ∨ fromLe (wireBlob.take 4) > xartMaxPayloadSize ∨
      wireBlob.length - 4 ≠ fromLe (wireBlob.take 4) then .error .invalidWireBlob
  else .ok (wireBlob.drop 4)

/-- The effective user is asked for only when file type and mode are right. -/
def validateRecordMetadata (metadata : Metadata) : XartM Unit := do
  if metadata.attributes.kind ≠ .regular ∨ metadata.attributes.mode &&& 0o777 ≠ 0o600 then
    throw .unsafeStorage
  else
    let uid ← effectiveUid
    if metadata.attributes.owner.uid ≠ uid then throw .unsafeStorage else pure ()

def validateDirectoryIdentity (metadata : Metadata) : XartM Unit := do
  if metadata.attributes.kind ≠ .directory then throw .unsafeStorage
  else
    let uid ← effectiveUid
    if metadata.attributes.owner.uid ≠ uid then throw .unsafeStorage else pure ()

/-- The bytes of the record: `read_exact` takes as many as the metadata said, and a further
read must find the end.  Any failure of the first read counts as an invalid record. -/
def readRecord (file : Ref) (payloadSize : ℕ) : XartM Packet := do
  let payload ← orElse .invalidStoredBlob (.read file)
  if payload.length < payloadSize then throw .invalidStoredBlob
  else
    let again ← orElse .storageUnavailable (.read file)
    if payloadSize < again.length then throw .invalidStoredBlob
    else pure (payload.take payloadSize)

/-- The part of `fetch` after the record was opened. -/
def fetchOpened (file : Ref) : XartM FetchedXart := do
  let metadata ← orElse .storageUnavailable (.metadata file)
  validateRecordMetadata metadata
  if metadata.length = 0 ∨ metadata.length > xartMaxPayloadSize then throw .invalidStoredBlob
  else
    let payload ← readRecord file metadata.length
    ExceptT.mk (pure (store.fetched payload))

def fetch : XartM FetchedXart := do
  match ← attempt (.openFile [recordFileName]) with
  | .error .notFound => ExceptT.mk (pure (store.fetched []))
  | .error _ => throw .storageUnavailable
  | .ok file => fetchOpened store file

def prepareDirectory : XartM Ref := do
  orElse .storageUnavailable (.createRoot 0o777)
  let directory ← orElse .unsafeStorage (.openDirectory [])
  let metadata ← orElse .storageUnavailable (.metadata directory)
  validateDirectoryIdentity metadata
  orElse .storageUnavailable (.setPermissions directory 0o700)
  let securedMetadata ← orElse .storageUnavailable (.metadata directory)
  if securedMetadata.attributes.mode &&& 0o777 ≠ 0o700 then throw .unsafeStorage
  else pure directory

def decimal (n : ℕ) : Name := ascii (Nat.toDigits 10 n)

def temporaryName (process sequence : ℕ) : Name :=
  ascii ['.', 'r', 'e', 'c', 'o', 'r', 'd', '.'] ++ decimal process ++ ascii ['.'] ++
    decimal sequence ++ ascii ['.', 't', 'm', 'p']

/-- A new file under the first name that is free, of as many as are tried; the counter of the
process moves on with every try. -/
def createTemporaryFile (process : ℕ) : ℕ → ℕ → XartProg (Except XartStoreError (Ref × Name) × ℕ)
  | 0, sequence => pure (.error .storageUnavailable, sequence)
  | tries + 1, sequence => do
    let name := temporaryName process sequence
    let next := (sequence + 1) % 2 ^ 64
    match ← call (.createFile [] name 0o600) with
    | .ok file => pure (.ok (file, name), next)
    | .error .alreadyExists => createTemporaryFile process tries next
    | .error _ => pure (.error .storageUnavailable, next)

def writeTemporary (temporary : Ref) (payload : Packet) : XartM Unit := do
  orElse .storageUnavailable (.setPermissions temporary 0o600)
  orElse .storageUnavailable (.write temporary payload)
  orElse .storageUnavailable (.sync temporary)

/-- The part of `save` after which a failure removes the temporary file. -/
def replaceRecord (directory temporary : Ref) (name : Name) (payload : Packet) : XartM Unit := do
  writeTemporary temporary payload
  orElse .storageUnavailable (.rename [] name recordFileName)
  orElse .storageUnavailable (.sync directory)

/-- The result of a save and the counter after it. -/
def save (process sequence : ℕ) (wireBlob : Packet) :
    XartProg (Except XartStoreError Unit × ℕ) := do
  match validateWireBlob wireBlob with
  | .error error => pure (.error error, sequence)
  | .ok payload =>
    match ← prepareDirectory.run with
    | .error error => pure (.error error, sequence)
    | .ok directory =>
      match ← createTemporaryFile process 64 sequence with
      | (.error error, sequence) => pure (.error error, sequence)
      | (.ok (temporary, name), sequence) =>
        match ← (replaceRecord directory temporary name payload).run with
        | .ok _ => pure (.ok (), sequence)
        | .error error =>
          let _ ← call (.removeFile [] name)
          pure (.error error, sequence)

end T1Bridge.Xart
