import T1Bridge.Lib.Except
import T1Bridge.Store.Catacomb

/-! # What the store's reading functions return

`Reads p view` says that `p` only looks, and returns `view`, or an error when a call failed
for a reason of its own.  The views say what a store directory holds: the generation its marker
names, a pair, what `load` returns. -/

namespace T1Bridge.Store

open Except (bind_eq_ok ite_error_eq_ok of_bind_ok of_ite_error_ok unit_bind_eq_ok)
open FileSystem
open Prog (wp wp_except_bind wp_except_lift wp_mono)

/-! ### Programs that only look -/

/-- The operation changes nothing. -/
def HostOp.IsLook : HostOp → Prop
  | file (.openDirectory _) | file (.openFile _) | file (.metadata _) | file (.symlinkMetadata _)
  | file (.read _) | file (.readDirectory _) | effectiveUid => True
  | _ => False

/-- The errors a failing call is reported as. -/
def Faulty {α : Type} (r : Outcome α) : Prop :=
  r = .error .storageUnavailable ∨ r = .error .unsafeStorage

/-- The program only looks and returns the view, unless a call failed. -/
def Reads {α : Type} (p : StoreM α) (view : World → Outcome α) : Prop :=
  ∀ w, wp Host (fun w' op => w' = w ∧ op.IsLook) p.run
    (fun r w' => w' = w ∧ (r = view w ∨ w.reliable = false ∧ Faulty r)) w

namespace Reads

variable {α β : Type} {p : StoreM α} {view : World → Outcome α}
  {view' : World → Outcome α}

lemma wp (h : Reads p view) {safe : World → HostOp → Prop} {w : World}
    {Q : Outcome α → World → Prop} (hsafe : ∀ op, op.IsLook → safe w op)
    (hview : Q (view w) w) (hfault : w.reliable = false → ∀ r, Faulty r → Q r w) :
    wp Host safe p.run Q w := by
  refine Prog.wp_weaken ?_ ?_ (h w)
  · rintro w' op ⟨rfl, hop⟩
    exact hsafe op hop
  · rintro r w' ⟨rfl, rfl | ⟨hr, hf⟩⟩
    · exact hview
    · exact hfault hr r hf

lemma pure (a : α) : Reads (Pure.pure a) fun _ => .ok a := fun _ => ⟨rfl, .inl rfl⟩

lemma throw (e : CatacombStoreError) : Reads (throw e : StoreM α) fun _ => .error e :=
  fun _ => ⟨rfl, .inl rfl⟩

lemma ofExcept (x : Outcome α) : Reads (ExceptT.mk (Pure.pure x)) fun _ => x :=
  fun _ => ⟨rfl, .inl rfl⟩

lemma bind {f : α → StoreM β} {views : α → World → Outcome β}
    (hp : Reads p view) (hf : ∀ a, Reads (f a) (views a)) :
    Reads (p >>= f) fun w => view w >>= fun a => views a w := by
  intro w
  rw [wp_except_bind]
  refine Prog.wp_weaken (fun _ _ h => h) ?_ (hp w)
  rintro r w' ⟨rfl, h⟩
  cases r with
  | error e =>
    refine ⟨rfl, ?_⟩
    beta_reduce
    rcases h with h | ⟨hr, h⟩
    · rw [← h]
      exact .inl rfl
    refine Or.inr ⟨hr, ?_⟩
    rcases h with h | h <;> cases h
    · exact .inl rfl
    · exact .inr rfl
  | ok a =>
    refine wp_mono ?_ (hf a w')
    rintro r w'' ⟨rfl, h'⟩
    refine ⟨rfl, ?_⟩
    beta_reduce
    rcases h with h | ⟨-, h⟩
    · rw [← h]
      exact h'
    · rcases h with h | h <;> cases h

lemma congr (h : Reads p view) (heq : ∀ w, view w = view' w) : Reads p view' := by
  intro w
  rw [← heq w]
  exact h w

lemma ite {c : Prop} [Decidable c] {q : StoreM α} (h : Reads p view) (h' : Reads q view') :
    Reads (if c then p else q) fun w => if c then view w else view' w := by
  split
  · exact h
  · exact h'

end Reads

/-- `answer` is what the call `o` returns, without any effect. -/
def Looks (o : FileOp Name) (answer : FileSystem Name → Except FileError o.Value) : Prop :=
  (HostOp.file o).IsLook ∧ ∀ fs who order, fs.meaning who order o = (answer fs).map fun v => (v, [])

variable {o : FileOp Name} {fs a b : FileSystem Name} {safe : World → HostOp → Prop} {w : World}
  {r : Ref} {pair : CatacombPair} {e : CatacombStoreError}
  {answer : FileSystem Name → Except FileError o.Value} {t : Name} {g : Name} {old : Ref}
  {bad : ℕ → Bool} {α β : Type} {x : Except FileError β} {bytes : List UInt8} {d : Ref} {n : Name}
  {uid : ℕ} {path : List Name}

lemma torn_look (h : (HostOp.file o).IsLook) (b : List UInt8) : torn b o = [] := by
  cases o with
  | write => exact h.elim
  | _ => rfl

lemma meaning_look (h : (HostOp.file o).IsLook)
    {who : Credentials} {order : List Name} {v : o.Value} {es : List (Effect Name)}
    (hm : fs.meaning who order o = .ok (v, es)) : es = [] := by
  cases o <;> first | exact h.elim | skip
  all_goals
    dsimp only [meaning] at hm
    repeat' split at hm
    all_goals cases hm <;> rfl

lemma wp_look (h : Looks o answer) {Q : Except FileError o.Value → World → Prop}
    (hsafe : safe w (.file o)) (hanswer : Q (answer w.fs) w)
    (hfault : w.reliable = false → Q (.error .failed) w) :
    wp Host safe (call o) Q w := by
  refine wp_call hsafe (fun hr b _ => ?_) (fun order v es hm _ => ?_) (fun order e hm => ?_)
  · simp only [torn_look h.1]
    exact hfault hr
  all_goals
    rw [h.2] at hm
    cases ha : answer w.fs <;> rw [ha] at hm hanswer <;> cases hm
    exact hanswer

lemma wp_attempt {Q : Outcome (Except FileError o.Value) → World → Prop}
    (hsafe : safe w (.file o)) (hok : ∀ order v es, w.fs.meaning w.who order o = .ok (v, es) →
      ∀ h, Q (.ok (.ok v)) (w.withFs (w.fs.runAll es) h))
    (herr : ∀ order e, w.fs.meaning w.who order o = .error e → Q (.ok (.error e)) w)
    (hfault : w.reliable = false → ∀ b h,
      Q (.ok (.error .failed)) (w.withFs (w.fs.runAll (torn b o)) h)) :
    wp Host safe (attempt o).run Q w := by
  rw [attempt, wp_except_lift]
  exact wp_call hsafe hfault hok herr

lemma wp_unavailable
    {Q : Outcome o.Value → World → Prop} (hsafe : safe w (.file o))
    (hok : ∀ order v es, w.fs.meaning w.who order o = .ok (v, es) →
      ∀ h, Q (.ok v) (w.withFs (w.fs.runAll es) h))
    (herr : ∀ order e, w.fs.meaning w.who order o = .error e → Q (.error .storageUnavailable) w)
    (hfault : w.reliable = false → ∀ b h,
      Q (.error .storageUnavailable) (w.withFs (w.fs.runAll (torn b o)) h)) :
    wp Host safe (unavailable o).run Q w := by
  rw [unavailable, wp_except_bind]
  exact wp_attempt hsafe hok herr hfault

lemma wp_readDirectory
    {Q : Outcome (List Name) → World → Prop}
    (hsafe : safe w (.file (.readDirectory path))) (hd : w.fs.directoryAt path = .ok d)
    (hok : ∀ names : List Name, names.Nodup → (∀ n, n ∈ names ↔ ∃ r, w.fs.lookup d n = some r) →
      Q (.ok names) w) (hfault : w.reliable = false → Q (.error .storageUnavailable) w) :
    wp Host safe (unavailable (.readDirectory path)).run Q w := by
  refine wp_unavailable hsafe (fun order names es hm h => ?_) (fun order e hm => ?_)
    (fun hr _ _ => hfault hr)
  · obtain ⟨d', hd', rfl, hnodup, hnames⟩ := meaning_readDirectory hm
    cases hd.symm.trans hd'
    exact hok names hnodup hnames
  · dsimp only [meaning] at hm
    rw [hd] at hm
    cases hm

lemma reads_attempt {f : Except FileError o.Value → StoreM β}
    {views : Except FileError o.Value → World → Outcome β} (h : Looks o answer)
    (hf : ∀ a, Reads (f a) (views a)) (hfault : ∀ w, Faulty (views (.error .failed) w)) :
    Reads (attempt o >>= f) fun w => views (answer w.fs) w := by
  intro w
  rw [wp_except_bind, attempt, wp_except_lift]
  refine wp_look h ⟨rfl, h.1⟩ (hf (answer w.fs) w) fun hr => ?_
  refine wp_mono ?_ (hf (.error .failed) w)
  rintro r w' ⟨rfl, hv⟩
  refine ⟨rfl, .inr ⟨hr, ?_⟩⟩
  rcases hv with rfl | ⟨-, hv⟩
  · exact hfault w'
  · exact hv

lemma reads_unavailable (h : Looks o answer) :
    Reads (unavailable o) fun w => (answer w.fs).mapError fun _ => .storageUnavailable := by
  refine reads_attempt h (fun a => (?_ : Reads _ fun _ => a.mapError fun _ => .storageUnavailable))
    fun _ => .inl rfl
  cases a with
  | error e => exact Reads.throw _
  | ok v => exact Reads.pure v

/-- What is done with the answer of an open call. -/
def opened {α β : Type} (answer : Except FileError β) (absent : Outcome α)
    (found : β → Outcome α) : Outcome α :=
  match answer with
  | .ok r => found r
  | .error .notFound => absent
  | .error _ => .error .unsafeStorage

@[simp] lemma opened_found (r : β) (e : Outcome α)
    (f : β → Outcome α) : opened (.ok r) e f = f r := rfl

lemma reads_opened {f : Except FileError o.Value → StoreM α}
    {absent : Outcome α} {found : World → o.Value → Outcome α}
    (h : Looks o answer) (habsent : Reads (f (.error .notFound)) fun _ => absent)
    (hexists : f (.error .alreadyExists) = throw .unsafeStorage)
    (hfailed : f (.error .failed) = throw .unsafeStorage)
    (hfound : ∀ r, Reads (f (.ok r)) fun w => found w r) :
    Reads (attempt o >>= f) fun w => opened (answer w.fs) absent (found w) := by
  have handled : ∀ a, Reads (f a) fun w => opened a absent (found w) := by
    rintro ((_ | _ | _) | r)
    · exact habsent
    · rw [hexists]
      exact Reads.throw _
    · rw [hfailed]
      exact Reads.throw _
    · exact hfound r
  exact reads_attempt h handled fun _ => .inr rfl

/-! ### The answers of calls that look -/

def openAt (fs : FileSystem Name) (path : List Name) : Except FileError Ref :=
  match fs.walk path with
  | .ok r => if fs.kind r = .symlink then .error .failed else .ok r
  | .error e => .error e

lemma looks_openDirectory (path : List Name) :
    Looks (.openDirectory path) fun fs => fs.directoryAt path := by
  refine ⟨trivial, fun fs who order => ?_⟩
  dsimp only [meaning]
  cases fs.directoryAt path <;> rfl

lemma looks_openFile (path : List Name) : Looks (.openFile path) fun fs => openAt fs path := by
  refine ⟨trivial, fun fs who order => ?_⟩
  dsimp only [meaning, openAt]
  cases fs.walk path with
  | error e => rfl
  | ok r =>
    dsimp only
    split <;> rfl

lemma looks_metadata (r : Ref) : Looks (.metadata r) fun fs => .ok (fs.stat r) :=
  ⟨trivial, fun _ _ _ => rfl⟩

lemma looks_symlinkMetadata (path : List Name) :
    Looks (.symlinkMetadata path) fun fs => (fs.walk path).map fs.stat := by
  refine ⟨trivial, fun fs who order => ?_⟩
  dsimp only [meaning]
  cases fs.walk path <;> rfl

lemma looks_read (r : Ref) : Looks (.read r)
    fun fs => if fs.kind r = .directory then .error .failed else .ok (fs.bytes r) := by
  refine ⟨trivial, fun fs who order => ?_⟩
  dsimp only [meaning]
  split <;> rfl

lemma reads_effectiveUid : Reads effectiveUid fun w => .ok w.who.uid := by
  intro w
  rw [effectiveUid, wp_except_bind, wp_except_lift]
  refine Prog.wp_perform ⟨rfl, trivial⟩ fun c _ => ?_
  simp only [Host, World.exec]
  cases hf : w.fault c with
  | some b => exact ⟨rfl, .inr ⟨w.fault_eq_some hf, .inl rfl⟩⟩
  | none => exact ⟨rfl, .inl rfl⟩

/-! ### Views -/

def checkedFile (fs : FileSystem Name) (uid : ℕ) (r : Ref) : Outcome Unit :=
  validateFileIdentity (fs.kind r == .regular) (fs.attributes r).mode (fs.attributes r).owner.uid
    (fs.links r) uid

def checkedDirectory (fs : FileSystem Name) (uid : ℕ) (r : Ref) : Outcome Unit :=
  if fs.kind r != .directory || (fs.attributes r).mode &&& 0o777 != 0o700 ||
      (fs.attributes r).owner.uid != uid then .error .unsafeStorage
  else .ok ()

/-- The bytes of a private file whose size is not `bad`. -/
def checkedBytes (fs : FileSystem Name) (uid : ℕ) (bad : ℕ → Bool) (error : CatacombStoreError)
    (r : Ref) : Outcome (List UInt8) := do
  checkedFile fs uid r
  if bad (fs.bytes r).length then .error error else .ok (fs.bytes r)

def storeView (fs : FileSystem Name) (uid : ℕ) : Outcome Ref :=
  opened (fs.directoryAt []) (.error .missingPair) fun r => do
    checkedDirectory fs uid r
    pure r

def markerView (fs : FileSystem Name) (uid : ℕ) : Outcome Name :=
  opened (openAt fs [activeMarker]) (.error .missingPair) fun r => do
    let bytes ← checkedBytes fs uid (fun size => size == 0 || size > maxMarkerSize) .unsafeStorage r
    markerGeneration bytes

def directoryView (fs : FileSystem Name) (uid : ℕ) (path : List Name) :
    Outcome Ref :=
  opened (fs.directoryAt path) (.error .unsafeStorage) fun r => do
    checkedDirectory fs uid r
    pure r

def blobView (fs : FileSystem Name) (uid : ℕ) (path : List Name) :
    Outcome (List UInt8) :=
  opened (openAt fs path) (.error .incompletePair)
    (checkedBytes fs uid (fun size => size == 0 || size > maxSecureCatacombSize) .invalidBlob)

def metadataView (fs : FileSystem Name) (uid : ℕ) (path : List Name) :
    Outcome (Option (List UInt8)) :=
  opened (openAt fs path) (.ok none) fun r => do
    let metadata ← checkedBytes fs uid (fun size => size > maxManifestSize) .invalidMetadata r
    validateMetadata metadata
    pure (some metadata)

def pairView (fs : FileSystem Name) (uid : ℕ) (generation : Name) :
    Outcome CatacombPair := do
  let _ ← directoryView fs uid [generation]
  let master ← blobView fs uid [generation, masterFile]
  let user ← blobView fs uid [generation, userFile]
  let metadata ← metadataView fs uid [generation, identityMetadataFile]
  pure ⟨master, user, metadata⟩

def loadView (fs : FileSystem Name) (uid : ℕ) : Outcome CatacombPair := do
  let _ ← storeView fs uid
  let generation ← markerView fs uid
  pairView fs uid generation

/-- The tokens of the reservations in a listing, when each is an empty private file. -/
def tokensView (fs : FileSystem Name) (uid : ℕ) : List Name → Outcome (List Name)
  | [] => .ok []
  | name :: names =>
    if !isText name then .error .unsafeStorage
    else
      match name.dropPrefix? recoveryDash with
      | none => tokensView fs uid names
      | some token =>
        if !isToken token then .error .unsafeStorage
        else do
          let metadata ← ((fs.walk [name]).map fs.stat).mapError fun _ => .storageUnavailable
          validateFileIdentity (metadata.attributes.kind == .regular)
            metadata.attributes.mode metadata.attributes.owner.uid metadata.links uid
          if metadata.length != 0 then .error .unsafeStorage
          else do
            let tokens ← tokensView fs uid names
            pure (token :: tokens)

/-! ### The reading functions return their views -/

lemma reads_validatePrivateFileMetadata (m : Metadata) :
    Reads (validatePrivateFileMetadata m) fun w =>
      validateFileIdentity (m.attributes.kind == .regular) m.attributes.mode
        m.attributes.owner.uid m.links w.who.uid :=
  (reads_effectiveUid.bind fun _ => Reads.ofExcept _).congr fun _ => rfl

lemma reads_validateDirectoryMetadata (m : Metadata) : Reads (validateDirectoryMetadata m) fun w =>
      if m.attributes.kind != .directory || m.attributes.mode &&& 0o777 != 0o700 ||
        m.attributes.owner.uid != w.who.uid then .error .unsafeStorage else .ok () := by
  refine ((Reads.throw _).ite (reads_effectiveUid.bind fun uid =>
    (Reads.throw _).ite (Reads.pure ()))).congr fun w => ?_
  by_cases h : (m.attributes.kind != .directory || m.attributes.mode &&& 0o777 != 0o700) = true
  · simp [h]
  · simp only [h]
    rfl

lemma checkedFile_ok : checkedFile fs uid r = .ok () ↔ fs.kind r = .regular ∧
      (fs.attributes r).mode &&& 0o777 = 0o600 ∧ (fs.attributes r).owner.uid = uid ∧
      fs.links r = 1 := by
  simp [checkedFile, validateFileIdentity, and_assoc]

lemma checkedFile_cases (fs : FileSystem Name) (uid : ℕ) (r : Ref) :
    checkedFile fs uid r = .ok () ∨ checkedFile fs uid r = .error .unsafeStorage := by
  unfold checkedFile validateFileIdentity
  split
  · exact .inr rfl
  · exact .inl rfl

lemma reads_readChecked (r : Ref) (bad : ℕ → Bool) (error trailing : CatacombStoreError) :
    Reads (readChecked r bad error trailing) fun w => checkedBytes w.fs w.who.uid bad error r := by
  refine ((reads_unavailable (looks_metadata r)).bind fun m =>
    (reads_validatePrivateFileMetadata m).bind fun _ =>
      (Reads.throw _).ite ((reads_unavailable (looks_read r)).bind fun bytes =>
        (Reads.throw _).ite ((Reads.throw _).ite (Reads.pure bytes)))).congr fun w => ?_
  change (checkedFile w.fs w.who.uid r >>= _) = _
  unfold checkedBytes
  rcases checkedFile_cases w.fs w.who.uid r with h | h
  · have hk : ¬ w.fs.kind r = .directory := by
      rw [(checkedFile_ok.mp h).1]
      decide
    -- the file has the length its metadata gave
    simp only [h, hk]
    change (if bad (w.fs.bytes r).length = true then _ else
      if (w.fs.bytes r).length < (w.fs.bytes r).length then _ else
        if (w.fs.bytes r).length < (w.fs.bytes r).length then _ else _) = _
    rw [if_neg (Nat.lt_irrefl _), if_neg (Nat.lt_irrefl _)]
    rfl
  · rw [h]
    rfl

lemma reads_checked (r : Ref) : Reads (do
      let metadata ← unavailable (.metadata r)
      validateDirectoryMetadata metadata
      pure r) fun w => checkedDirectory w.fs w.who.uid r >>= fun _ => pure r :=
  ((reads_unavailable (looks_metadata r)).bind fun m =>
    (reads_validateDirectoryMetadata m).bind fun _ => Reads.pure r).congr fun _ => rfl

lemma reads_openExistingDirectory : Reads openExistingDirectory fun w => storeView w.fs w.who.uid :=
  reads_opened (looks_openDirectory []) (Reads.throw _) rfl rfl reads_checked

lemma reads_openCheckedDirectory (path : List Name) :
    Reads (openCheckedDirectory path) fun w => directoryView w.fs w.who.uid path :=
  reads_opened (looks_openDirectory path) (Reads.throw _) rfl rfl reads_checked

lemma reads_readActiveGeneration : Reads readActiveGeneration fun w => markerView w.fs w.who.uid :=
  reads_opened (looks_openFile [activeMarker]) (Reads.throw _) rfl rfl fun r =>
    (reads_readChecked r _ _ _).bind fun _ => Reads.ofExcept _

lemma reads_readBlob (path : List Name) :
    Reads (readBlob path) fun w => blobView w.fs w.who.uid path :=
  reads_opened (looks_openFile path) (Reads.throw _) rfl rfl fun r => reads_readChecked r _ _ _

lemma reads_readMetadata (path : List Name) :
    Reads (readMetadata path) fun w => metadataView w.fs w.who.uid path :=
  reads_opened (looks_openFile path) (Reads.pure none) rfl rfl fun r =>
    (reads_readChecked r _ _ _).bind fun _ => (Reads.ofExcept _).bind fun _ => Reads.pure _

lemma reads_readPair (generation : Name) :
    Reads (readPair generation) fun w => pairView w.fs w.who.uid generation :=
  (reads_openCheckedDirectory _).bind fun _ => (reads_readBlob _).bind fun _ =>
    (reads_readBlob _).bind fun _ => (reads_readMetadata _).bind fun _ => Reads.pure _

lemma reads_load : Reads load fun w => loadView w.fs w.who.uid :=
  reads_openExistingDirectory.bind fun _ =>
    reads_readActiveGeneration.bind fun generation => reads_readPair generation

lemma reads_recoveryTokensOf (names : List Name) :
    Reads (recoveryTokensOf names) fun w => tokensView w.fs w.who.uid names := by
  induction names with
  | nil => exact Reads.pure []
  | cons name names ih =>
    refine (Reads.throw _).ite ?_
    cases name.dropPrefix? recoveryDash with
    | none => exact ih
    | some token =>
      exact (Reads.throw _).ite ((reads_unavailable (looks_symlinkMetadata [name])).bind
        fun m => (reads_validatePrivateFileMetadata m).bind fun _ =>
          (Reads.throw _).ite (ih.bind fun tokens => Reads.pure (token :: tokens)))

/-- `load` without failing calls returns the view. -/
lemma load_eval (hw : w.reliable = true) (c : Choice) :
    (Prog.eval Host c load.run w).1 = loadView w.fs w.who.uid := by
  have h : wp Host (fun _ op => op.IsLook) load.run (fun r _ => r = loadView w.fs w.who.uid) w :=
    reads_load.wp (fun _ hop => hop) rfl fun hr => by rw [hw] at hr; cases hr
  refine Prog.eval_of_wp ?_ h
  rintro w' op hop rfl
  exact hop.elim

/-- A pair that `load` returns is the one the view says, whatever calls failed. -/
lemma load_steps {w' : World} (h : Prog.Steps Host load.run w (.ret (.ok pair)) w') :
    loadView w.fs w.who.uid = .ok pair := by
  have hwp : wp Host (fun _ op => op.IsLook) load.run
      (fun r _ => ∀ pair, r = .ok pair → loadView w.fs w.who.uid = .ok pair) w := by
    refine reads_load.wp (fun _ hop => hop) (fun _ h => h) ?_
    rintro - r (rfl | rfl) pair hpair <;> cases hpair
  exact h.post_of_wp hwp pair rfl

/-! ### What a successful view says -/

lemma opened_ok
    {f : β → Outcome α} {v : α} (h : opened x (.error e) f = .ok v) :
    ∃ r, x = .ok r ∧ f r = .ok v := by
  cases x with
  | ok r => exact ⟨r, rfl, h⟩
  | error e' => cases e' <;> cases h

lemma checked_ok (h : opened (fs.directoryAt path) (.error e)
      (fun r => do checkedDirectory fs uid r; pure r) = .ok r) :
    fs.directoryAt path = .ok r ∧ checkedDirectory fs uid r = .ok () := by
  obtain ⟨q, hq, h⟩ := opened_ok h
  obtain ⟨_, hc, h⟩ := of_bind_ok h
  cases h
  exact ⟨hq, hc⟩

lemma directoryView_ok (h : directoryView fs uid path = .ok r) :
    fs.directoryAt path = .ok r ∧ checkedDirectory fs uid r = .ok () := checked_ok h

lemma storeView_ok (h : storeView fs uid = .ok r) :
    fs.directoryAt [] = .ok r ∧ checkedDirectory fs uid r = .ok () := checked_ok h

lemma checkedBytes_ok : checkedBytes fs uid bad e r = .ok bytes ↔
    checkedFile fs uid r = .ok () ∧ bad (fs.bytes r).length = false ∧ fs.bytes r = bytes := by
  simp only [checkedBytes, unit_bind_eq_ok, ite_error_eq_ok, Bool.not_eq_true, Except.ok.injEq]

lemma markerGeneration_ok (h : markerGeneration bytes = .ok g) :
    bytes = g ++ [10] ∧ isGenerationName g = true := by
  have hs : bytes.dropSuffix? [10] = some g ∧ isGenerationName g = true := by
    unfold markerGeneration at h
    grind
  obtain ⟨s, rfl, heq⟩ := List.dropSuffix?_eq_some_iff.mp hs.1
  rw [eq_of_beq heq]
  exact ⟨rfl, hs.2⟩

lemma markerView_ok (h : markerView fs uid = .ok g) :
    ∃ r, openAt fs [activeMarker] = .ok r ∧ checkedFile fs uid r = .ok () ∧
      fs.bytes r = g ++ [10] ∧ isGenerationName g = true := by
  obtain ⟨r, hopen, h⟩ := opened_ok h
  obtain ⟨bytes, hb, h⟩ := of_bind_ok h
  obtain ⟨hc, -, rfl⟩ := checkedBytes_ok.mp hb
  exact ⟨r, hopen, hc, markerGeneration_ok h⟩

/-- What is active: no marker is no generation. -/
def activeView (fs : FileSystem Name) (uid : ℕ) : Outcome (Option Name) :=
  match markerView fs uid with
  | .ok g => .ok (some g)
  | .error .missingPair => .ok none
  | .error e => .error e

lemma reads_activeGeneration : Reads activeGeneration fun w => activeView w.fs w.who.uid := by
  intro w
  unfold activeGeneration activeView
  rw [wp_except_bind, wp_except_lift]
  refine reads_readActiveGeneration.wp (fun _ hop => ⟨rfl, hop⟩) ?_ ?_
  · cases hv : markerView w.fs w.who.uid with
    | ok g => exact ⟨rfl, .inl (by simp only [hv])⟩
    | error e => cases e <;> exact ⟨rfl, .inl (by simp only [hv])⟩
  · rintro hr r (rfl | rfl)
    · exact ⟨rfl, .inr ⟨hr, .inl rfl⟩⟩
    · exact ⟨rfl, .inr ⟨hr, .inr rfl⟩⟩

lemma activeView_ok {active : Option Name} (h : activeView fs uid = .ok active) :
    markerView fs uid = active.elim (.error .missingPair) .ok := by
  unfold activeView at h
  split at h <;> cases h <;> assumption

lemma openAt_of_missing (h : markerView fs uid = .error .missingPair) :
    openAt fs [activeMarker] = .error .notFound := by
  unfold markerView at h
  cases ho : openAt fs [activeMarker] with
  | error e =>
    rw [ho] at h
    cases e with
    | notFound => rfl
    | alreadyExists | failed => cases h
  | ok r =>
    rw [ho, opened_found] at h
    -- no check of the marker says that the pair is missing
    unfold checkedBytes markerGeneration at h
    rcases checkedFile_cases fs uid r with hc | hc
    · simp only [hc, bind, Except.bind] at h
      grind
    · rw [hc] at h
      cases h

/-- The tokens found are those of the listing, and their files are empty and private. -/
lemma tokensView_ok {names tokens : List Name} (h : tokensView fs uid names = .ok tokens) :
    tokens = names.filterMap (·.dropPrefix? recoveryDash) ∧
      ∀ t ∈ tokens, isToken t = true ∧ ∃ r, fs.walk [recoveryName t] = .ok r ∧
        checkedFile fs uid r = .ok () ∧ fs.bytes r = [] := by
  induction names generalizing tokens with
  | nil =>
    cases h
    exact ⟨rfl, by simp⟩
  | cons name names ih =>
    obtain ⟨-, h⟩ := of_ite_error_ok h
    cases hname : name.dropPrefix? recoveryDash with
    | none =>
      rw [hname] at h
      simp only [List.filterMap_cons, hname]
      exact ih h
    | some token =>
      rw [hname] at h
      simp only [ite_error_eq_ok, bind_eq_ok] at h
      obtain ⟨htoken, m, hm, _, hprivate, hlength, rest, hrest, ⟨⟩⟩ := h
      obtain ⟨heq, hall⟩ := ih hrest
      refine ⟨by simp only [List.filterMap_cons, hname, heq], fun t ht => ?_⟩
      rcases List.mem_cons.mp ht with rfl | ht
      · refine ⟨by simpa using htoken, ?_⟩
        obtain rfl := eq_of_dropPrefix hname
        cases hwalk : fs.walk [recoveryDash ++ t] with
        | error e =>
          rw [hwalk] at hm
          cases hm
        | ok r =>
          rw [hwalk] at hm
          cases hm
          refine ⟨r, hwalk, hprivate, ?_⟩
          have hlen : (fs.bytes r).length = 0 := by simpa [FileSystem.stat] using hlength
          exact List.eq_nil_of_length_eq_zero hlen
      · exact hall t ht

lemma pairView_ok (h : pairView fs uid g = .ok pair) :
    (∃ r, directoryView fs uid [g] = .ok r) ∧ blobView fs uid [g, masterFile] = .ok pair.master ∧
      blobView fs uid [g, userFile] = .ok pair.user ∧
      metadataView fs uid [g, identityMetadataFile] = .ok pair.metadata := by
  simp only [pairView, bind_eq_ok] at h
  obtain ⟨r, hd, master, hm, user, hu, metadata, he, ⟨⟩⟩ := h
  exact ⟨⟨r, hd⟩, hm, hu, he⟩

lemma loadView_ok (h : loadView fs uid = .ok pair) :
    ∃ g, markerView fs uid = .ok g ∧ pairView fs uid g = .ok pair := by
  obtain ⟨r, -, h⟩ := of_bind_ok h
  obtain ⟨g, hm, h⟩ := of_bind_ok h
  exact ⟨g, hm, h⟩

/-! ### Views beside somebody else's work -/

/-- The names made from a token. -/
def ownNames (token : Name) (_ : Ref) (n : Name) : Prop := ∃ k : Artifact, n = k.name token

lemma not_ownNames_activeMarker : ¬ ownNames t d activeMarker := by
  rintro ⟨k, hk⟩
  exact Artifact.name_ne_activeMarker hk.symm

lemma not_ownNames_pairFile (h : isPairFile n = true) : ¬ ownNames t d n := by
  rintro ⟨k, rfl⟩
  simp [isPairFile] at h

lemma opened_congr {e : Outcome α}
    {f g : β → Outcome α} (h : ∀ r, x = .ok r → f r = g r) :
    opened x e f = opened x e g := by
  cases x with
  | ok r => exact h r rfl
  | error e' => cases e' <;> rfl

/-- The store's readers find in `b` what they find in `a`, as long as they go through `seen`
inodes and names that are not `own`. -/
structure Sees (uid : ℕ) (seen : Ref → Prop) (own : Ref → Name → Prop) (a b : FileSystem Name) :
    Prop where
  root : b.root = a.root
  root_seen : ∀ r, a.root = some r → seen r
  kind : ∀ r, seen r → b.kind r = a.kind r
  lookup : ∀ d n, seen d → ¬ own d n → b.lookup d n = a.lookup d n
  closed : ∀ d n r, seen d → ¬ own d n → a.lookup d n = some r → seen r
  bytes : ∀ r, seen r → b.bytes r = a.bytes r
  directory : ∀ r, seen r → checkedDirectory b uid r = checkedDirectory a uid r
  file : ∀ r, seen r → checkedFile b uid r = checkedFile a uid r

namespace Sees

variable {seen : Ref → Prop} {own : Ref → Name → Prop}

section

variable (h : Sees uid seen own a b)

include h

lemma checkedBytes (hr : seen r) (bad : ℕ → Bool) (e : CatacombStoreError) :
    Store.checkedBytes b uid bad e r = Store.checkedBytes a uid bad e r := by
  unfold Store.checkedBytes
  rw [h.file r hr, h.bytes r hr]

variable (hp : ∀ n ∈ path, ∀ d, ¬ own d n)
include hp

lemma walk : b.walk path = a.walk path ∧ ∀ r, a.walk path = .ok r → seen r := by
  have step : ∀ (path : List Name), (∀ n ∈ path, ∀ d, ¬ own d n) → ∀ r, seen r →
      b.walkFrom r path = a.walkFrom r path ∧ ∀ q, a.walkFrom r path = .ok q → seen q := by
    intro path
    induction path with
    | nil =>
      intro _ r hr
      refine ⟨rfl, fun q hq => ?_⟩
      cases hq
      exact hr
    | cons n path ih =>
      intro hp r hr
      have hn : ¬ own r n := hp n (by simp) r
      simp only [walkFrom, h.kind r hr, h.lookup r n hr hn]
      split
      · cases hl : a.lookup r n with
        | some q => exact ih (fun m hm => hp m (by simp [hm])) q (h.closed r n q hr hn hl)
        | none => exact ⟨rfl, fun q hq => by cases hq⟩
      · exact ⟨rfl, fun q hq => by cases hq⟩
  unfold FileSystem.walk
  rw [h.root]
  cases hroot : a.root with
  | some r => exact step path hp r (h.root_seen r hroot)
  | none => exact ⟨rfl, fun q hq => by cases hq⟩

lemma openAt :
    Store.openAt b path = Store.openAt a path ∧ ∀ r, Store.openAt a path = .ok r → seen r := by
  obtain ⟨heq, hseen⟩ := h.walk hp
  unfold Store.openAt
  rw [heq]
  cases hw : a.walk path with
  | error e => exact ⟨rfl, nofun⟩
  | ok r =>
    dsimp only
    rw [h.kind r (hseen r hw)]
    refine ⟨rfl, fun q hq => ?_⟩
    split at hq <;> cases hq
    exact hseen r hw

lemma directoryAt :
    b.directoryAt path = a.directoryAt path ∧ ∀ r, a.directoryAt path = .ok r → seen r := by
  obtain ⟨heq, hseen⟩ := h.walk hp
  refine ⟨?_, fun r hr => hseen r (directoryAt_ok hr).1⟩
  unfold FileSystem.directoryAt
  rw [heq]
  cases hw : a.walk path with
  | error e => rfl
  | ok r =>
    dsimp only
    rw [h.kind r (hseen r hw)]

lemma directoryView : Store.directoryView b uid path = Store.directoryView a uid path := by
  obtain ⟨heq, hseen⟩ := h.directoryAt hp
  unfold Store.directoryView
  rw [heq]
  refine opened_congr fun r hr => ?_
  rw [h.directory r (hseen r hr)]

lemma read {f g : Ref → Outcome α} (hf : ∀ r, seen r → f r = g r)
    (e : Outcome α) :
    opened (Store.openAt b path) e f = opened (Store.openAt a path) e g := by
  obtain ⟨heq, hseen⟩ := h.openAt hp
  rw [heq]
  exact opened_congr fun r hr => hf r (hseen r hr)

lemma blobView : Store.blobView b uid path = Store.blobView a uid path :=
  h.read hp (fun _ hr => h.checkedBytes hr _ _) _

lemma metadataView : Store.metadataView b uid path = Store.metadataView a uid path :=
  h.read hp (fun _ hr => by rw [h.checkedBytes hr]) _

omit hp

lemma storeView : Store.storeView b uid = Store.storeView a uid := by
  obtain ⟨heq, hseen⟩ : b.directoryAt [] = a.directoryAt [] ∧ _ := h.directoryAt (by simp)
  unfold Store.storeView
  rw [heq]
  refine opened_congr fun r hr => ?_
  rw [h.directory r (hseen r hr)]

lemma markerView (hp : ∀ d, ¬ own d activeMarker) :
    Store.markerView b uid = Store.markerView a uid :=
  h.read (by simpa using hp) (fun _ hr => by rw [h.checkedBytes hr]) _

end

variable (hfiles : ∀ n, isPairFile n = true → ∀ d, ¬ own d n)
include hfiles

lemma pairView (h : Sees uid seen own a b) {generation : Name} (hg : ∀ d, ¬ own d generation) :
    Store.pairView b uid generation = Store.pairView a uid generation := by
  have hp : ∀ n, isPairFile n = true → ∀ m ∈ [generation, n], ∀ d, ¬ own d m := by
    intro n hn m hm
    simp only [List.mem_cons, List.not_mem_nil, or_false] at hm
    rcases hm with rfl | rfl
    · exact hg
    · exact hfiles _ hn
  unfold Store.pairView
  rw [h.directoryView (by simpa using hg), h.blobView (hp _ rfl), h.blobView (hp _ rfl),
    h.metadataView (hp _ rfl)]

lemma loadView (h : Sees uid seen own a b) (hm : ∀ d, ¬ own d activeMarker)
    (hg : ∀ g, Store.markerView a uid = .ok g → ∀ d, ¬ own d g) :
    Store.loadView b uid = Store.loadView a uid := by
  unfold Store.loadView
  rw [h.storeView, h.markerView hm]
  cases Store.storeView a uid with
  | error e => rfl
  | ok r =>
    cases hv : Store.markerView a uid with
    | error e => rfl
    | ok g => exact h.pairView hfiles (hg g hv)

end Sees

lemma sees_of_agree {own : Ref → Name → Prop} (h : Agree old own a b) (ha : a.Bounded)
    (hb : b.Bounded) (uid : ℕ) :
    Sees uid (· < old) own a b where
  root := h.root
  root_seen := h.root_lt
  kind r hr := by rw [kind, kind, h.attributes r hr]
  lookup d n hd hn := h.outer d hd n hn
  closed d n r _ _ hl := (h.bound d n r hl).2
  bytes := h.bytes
  directory r hr := by rw [checkedDirectory, checkedDirectory, kind, kind, h.attributes r hr]
  file r hr := by rw [checkedFile, checkedFile, kind, kind, h.attributes r hr, h.links ha hb hr]

/-- `load` does not see the names of a token that its marker does not name. -/
lemma agree_loadView (h : Agree old (ownNames t) a b) (ha : a.Bounded) (hb : b.Bounded)
    (hm : markerView a uid ≠ .ok (generationName t)) : loadView b uid = loadView a uid := by
  refine (sees_of_agree h ha hb uid).loadView (fun n hn d => not_ownNames_pairFile hn)
    (fun _ => not_ownNames_activeMarker) fun g hv d hown => ?_
  obtain ⟨r, -, -, -, hg⟩ := markerView_ok hv
  obtain ⟨u, -, rfl⟩ := isGenerationName_iff.mp hg
  obtain ⟨k, hk⟩ := hown
  obtain ⟨-, rfl⟩ := Artifact.name_inj.mp hk
  exact hm hv

/-- A marker that leads to a pair does not name a generation that is not there. -/
lemma markerView_ne_of_loadView (h : loadView fs uid = .ok pair) (hn : ∀ d, fs.lookup d n = none) :
    markerView fs uid ≠ .ok n := by
  intro hm
  obtain ⟨g, hm', hp⟩ := loadView_ok h
  cases hm.symm.trans hm'
  obtain ⟨⟨r, hd⟩, -⟩ := pairView_ok hp
  obtain ⟨q, hq, -⟩ := opened_ok hd
  obtain ⟨hwalk, -⟩ := directoryAt_ok hq
  unfold walk at hwalk
  split at hwalk
  · unfold walkFrom at hwalk
    split at hwalk
    · rw [hn] at hwalk
      cases hwalk
    · cases hwalk
  · cases hwalk

/-- What loads before somebody works beside it loads afterwards. -/
lemma agree_loadView_ok (h : Agree old (ownNames t) a b) (ha : a.Bounded) (hb : b.Bounded)
    (hp : loadView a uid = .ok pair) : loadView b uid = .ok pair := by
  rw [agree_loadView h ha hb (markerView_ne_of_loadView hp fun d => h.vacant d _ ⟨_, rfl⟩)]
  exact hp

/-! ### File systems that look the same -/

/-- The store's readers find the same in both. -/
def Alike (uid : ℕ) (a b : FileSystem Name) : Prop :=
  Sees uid (fun _ => True) (fun _ _ => False) a b

namespace Alike

variable (h : Alike uid a b)

include h

lemma lookup (d : Ref) (n : Name) : b.lookup d n = a.lookup d n :=
  Sees.lookup h d n trivial id

lemma directoryAt (path : List Name) :
    b.directoryAt path = a.directoryAt path := (Sees.directoryAt h fun _ _ _ => id).1

lemma markerView : Store.markerView b uid = Store.markerView a uid :=
  Sees.markerView h fun _ => id

lemma loadView : Store.loadView b uid = Store.loadView a uid :=
  Sees.loadView (fun _ _ _ => id) h (fun _ => id) fun _ _ _ => id

end Alike

/-- Attributes and what is seen of names and bytes decide what the readers find. -/
lemma alike_of (ha : a.Bounded) (hb : b.Bounded) (hroot : b.root = a.root)
    (hattr : b.attributes = a.attributes) (hlookup : ∀ d n, b.lookup d n = a.lookup d n)
    (hbytes : ∀ r, b.bytes r = a.bytes r) (uid : ℕ) : Alike uid a b := by
  have hlinks : ∀ r, b.links r = a.links r := fun r => links_congr hb ha fun d n => by rw [hlookup]
  refine ⟨hroot, fun _ _ => trivial, fun r _ => ?_, fun d n _ _ => hlookup d n,
    fun _ _ _ _ _ _ => trivial, fun r _ => hbytes r, fun r _ => ?_, fun r _ => ?_⟩
  · rw [kind, kind, hattr]
  · unfold checkedDirectory kind
    rw [hattr]
  · unfold checkedFile kind
    rw [hattr, hlinks]

lemma alike_sync (hb : fs.Bounded) (r : Ref) (uid : ℕ) : Alike uid fs ((Effect.sync r).run fs) :=
  alike_of hb (hb.sync r) rfl rfl (fun _ _ => lookup_sync) (fun _ => bytes_sync) uid

end T1Bridge.Store
