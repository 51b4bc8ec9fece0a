import T1Bridge.Lib.FileSystem

/-! # File system calls

What each call returns and which effects it has.  A path is the list of names below the
root, an open file is its inode.  A call that fails for a reason of its own (`fault`) has no
effect, except that a failed write leaves any bytes behind. -/

/-- The error kinds that callers tell apart. -/
inductive FileError where
  | notFound | alreadyExists | failed
deriving DecidableEq

structure Metadata where
  attributes : Attributes
  links : ℕ
  length : ℕ
  inode : Ref
deriving DecidableEq

/-- The file system calls. -/
inductive FileOp (ν : Type) where
  | openDirectory (path : List ν)
  | openFile (path : List ν)
  | createFile (parent : List ν) (name : ν) (mode : ℕ)
  | createDirectory (parent : List ν) (name : ν) (mode : ℕ)
  | createRoot (mode : ℕ)
  | metadata (handle : Ref)
  | symlinkMetadata (path : List ν)
  | setPermissions (handle : Ref) (mode : ℕ)
  | setPathPermissions (path : List ν) (mode : ℕ)
  | read (handle : Ref)
  | write (handle : Ref) (bytes : List UInt8)
  | sync (handle : Ref)
  | readDirectory (path : List ν)
  | rename (parent : List ν) (source target : ν)
  | removeFile (parent : List ν) (name : ν)
  | removeDirectory (parent : List ν) (name : ν)
  | hardLink (parent : List ν) (source target : ν)

/-- What a successful call returns. -/
def FileOp.Value {ν : Type} : FileOp ν → Type
  | openDirectory _ | openFile _ | createFile _ _ _ => Ref
  | metadata _ | symlinkMetadata _ => Metadata
  | read _ => List UInt8
  | readDirectory _ => List ν
  | createDirectory _ _ _ | createRoot _ | setPermissions _ _ | setPathPermissions _ _
  | write _ _ | sync _ | rename _ _ _ | removeFile _ _ | removeDirectory _ _
  | hardLink _ _ _ => Unit

namespace FileSystem

variable {ν : Type} [DecidableEq ν] (fs : FileSystem ν)

/-! ### Paths -/

def walkFrom : Ref → List ν → Except FileError Ref
  | r, [] => .ok r
  | r, n :: path =>
    if fs.kind r = .directory then
      match fs.lookup r n with
      | some q => walkFrom q path
      | none => .error .notFound
    else .error .failed

def walk (path : List ν) : Except FileError Ref :=
  match fs.root with
  | some r => fs.walkFrom r path
  | none => .error .notFound

def directoryAt (path : List ν) : Except FileError Ref :=
  match fs.walk path with
  | .ok d => if fs.kind d = .directory then .ok d else .error .failed
  | .error e => .error e

/-- The directory at `parent` and the inode it has under `name`. -/
def entryAt (parent : List ν) (name : ν) : Except FileError (Ref × Ref) :=
  match fs.directoryAt parent with
  | .ok d =>
    match fs.lookup d name with
    | some r => .ok (d, r)
    | none => .error .notFound
  | .error e => .error e

/-- The directory at `parent` when it has nothing under `name`. -/
def vacantAt (parent : List ν) (name : ν) : Except FileError Ref :=
  match fs.directoryAt parent with
  | .ok d => if (fs.lookup d name).isSome then .error .alreadyExists else .ok d
  | .error e => .error e

def stat (r : Ref) : Metadata :=
  { attributes := fs.attributes r, links := fs.links r, length := (fs.bytes r).length, inode := r }

def isEmptyDirectory (r : Ref) : Bool := (fs.directory r).live.keys.isEmpty

/-- Whether an inode can take the place of another under its name. -/
def canReplace (r q : Ref) : Bool :=
  if fs.kind r = .directory then fs.kind q = .directory && fs.isEmptyDirectory q
  else fs.kind q ≠ .directory

/-! ### Calls -/

/-- The result and the effects of a call that is not cut short; `order` is the order in which
a listing returns its names. -/
def meaning (who : Credentials) (order : List ν) :
    (o : FileOp ν) → Except FileError (o.Value × List (Effect ν))
  | .openDirectory path =>
    match fs.directoryAt path with
    | .ok d => .ok (d, [])
    | .error e => .error e
  | .openFile path =>
    match fs.walk path with
    | .ok r => if fs.kind r = .symlink then .error .failed else .ok (r, [])
    | .error e => .error e
  | .createFile parent name mode =>
    match fs.vacantAt parent name with
    | .ok d => .ok (fs.next, [.allocate ⟨.regular, mode, who⟩, .change d [(name, some fs.next)]])
    | .error e => .error e
  | .createDirectory parent name mode =>
    match fs.vacantAt parent name with
    | .ok d => .ok ((), [.allocate ⟨.directory, mode, who⟩, .change d [(name, some fs.next)]])
    | .error e => .error e
  | .createRoot mode =>
    match fs.root with
    | none => .ok ((), [.allocate ⟨.directory, mode, who⟩, .setRoot fs.next])
    | some r => if fs.kind r = .directory then .ok ((), []) else .error .failed
  | .metadata handle => .ok (fs.stat handle, [])
  | .symlinkMetadata path =>
    match fs.walk path with
    | .ok r => .ok (fs.stat r, [])
    | .error e => .error e
  | .setPermissions handle mode => .ok ((), [.chmod handle mode])
  | .setPathPermissions path mode =>
    match fs.walk path with
    | .ok r => .ok ((), [.chmod r mode])
    | .error e => .error e
  | .read handle =>
    if fs.kind handle = .directory then .error .failed else .ok (fs.bytes handle, [])
  | .write handle bytes => .ok ((), [.write handle (fs.bytes handle ++ bytes)])
  | .sync handle => .ok ((), [.sync handle])
  | .readDirectory path =>
    match fs.directoryAt path with
    | .ok d =>
      let keys := (fs.directory d).live.keys
      .ok (if order.Perm keys then order else keys, [])
    | .error e => .error e
  | .rename parent source target =>
    match fs.entryAt parent source with
    | .ok (d, r) =>
      match fs.lookup d target with
      | none => .ok ((), [.change d [(source, none), (target, some r)]])
      | some q =>
        if q = r then .ok ((), [])
        else if fs.canReplace r q then
          .ok ((), [.change d [(source, none), (target, some r)]])
        else .error .failed
    | .error e => .error e
  | .removeFile parent name =>
    match fs.entryAt parent name with
    | .ok (d, r) =>
      if fs.kind r = .directory then .error .failed else .ok ((), [.change d [(name, none)]])
    | .error e => .error e
  | .removeDirectory parent name =>
    match fs.entryAt parent name with
    | .ok (d, r) =>
      if fs.kind r = .directory ∧ fs.isEmptyDirectory r then
        .ok ((), [.change d [(name, none)]])
      else .error .failed
    | .error e => .error e
  | .hardLink parent source target =>
    match fs.entryAt parent source with
    | .ok (d, r) =>
      if (fs.lookup d target).isSome then .error .alreadyExists
      else if fs.kind r = .directory then .error .failed
      else .ok ((), [.change d [(target, some r)]])
    | .error e => .error e

/-- What a call that fails for a reason of its own leaves behind. -/
def torn (bytes : List UInt8) : FileOp ν → List (Effect ν)
  | .write handle _ => [.write handle bytes]
  | _ => []

/-- A call; `fault` makes it fail. -/
def exec (who : Credentials) (fault : Option (List UInt8)) (order : List ν) (o : FileOp ν) :
    Except FileError o.Value × FileSystem ν :=
  match fault with
  | some bytes => (.error .failed, fs.runAll (torn bytes o))
  | none =>
    match fs.meaning who order o with
    | .ok (v, es) => (.ok v, fs.runAll es)
    | .error e => (.error e, fs)

/-! ### What every call keeps -/

variable {fs} {path parent : List ν} {r d : Ref} {v : Unit} {name : ν}

lemma walkFrom_lt (hb : fs.Bounded) {q : Ref} (hr : r < fs.next)
    (h : fs.walkFrom r path = .ok q) : q < fs.next := by
  induction path generalizing r with
  | nil =>
    cases h
    exact hr
  | cons n path ih =>
    unfold walkFrom at h
    split at h
    · split at h
      · next hl => exact ih (hb.lookup_lt hl).2 h
      · cases h
    · cases h

lemma walk_lt (hb : fs.Bounded) (h : fs.walk path = .ok r) : r < fs.next := by
  unfold walk at h
  split at h
  · next hroot => exact walkFrom_lt hb (hb.root_lt _ hroot) h
  · cases h

lemma directoryAt_ok (h : fs.directoryAt path = .ok d) :
    fs.walk path = .ok d ∧ fs.kind d = .directory := by
  unfold directoryAt at h
  split at h
  · next hw =>
    split at h
    · next hk =>
      cases h
      exact ⟨hw, hk⟩
    · cases h
  · cases h

lemma entryAt_ok (h : fs.entryAt parent name = .ok (d, r)) :
    fs.directoryAt parent = .ok d ∧ fs.lookup d name = some r := by
  unfold entryAt at h
  split at h
  · next hd =>
    split at h
    · next hl =>
      cases h
      exact ⟨hd, hl⟩
    · cases h
  · cases h

lemma vacantAt_ok (h : fs.vacantAt parent name = .ok d) :
    fs.directoryAt parent = .ok d ∧ fs.lookup d name = none := by
  unfold vacantAt at h
  split at h
  · next hd =>
    split at h
    · cases h
    next hl =>
    cases h
    exact ⟨hd, by simpa using hl⟩
  · cases h

lemma directoryAt_lt (hb : fs.Bounded)
    (h : fs.directoryAt path = .ok d) : d < fs.next := walk_lt hb (directoryAt_ok h).1

/-! ### What a call that succeeds has done -/

variable {who : Credentials} {order : List ν} {es : List (Effect ν)} {m n : ν} {mode : ℕ}
  {o : FileOp ν}

lemma meaning_createFile {v : Ref}
    (h : fs.meaning who order (.createFile parent n mode) = .ok (v, es)) :
    ∃ d, fs.directoryAt parent = .ok d ∧ fs.lookup d n = none ∧ v = fs.next ∧
      es = [.allocate ⟨.regular, mode, who⟩, .change d [(n, some fs.next)]] := by
  dsimp only [meaning] at h
  split at h
  · next d hd =>
    cases h
    exact ⟨d, (vacantAt_ok hd).1, (vacantAt_ok hd).2, rfl, rfl⟩
  · cases h

lemma meaning_createDirectory
    (h : fs.meaning who order (.createDirectory parent n mode) = .ok (v, es)) :
    ∃ d, fs.directoryAt parent = .ok d ∧ fs.lookup d n = none ∧
      es = [.allocate ⟨.directory, mode, who⟩, .change d [(n, some fs.next)]] := by
  dsimp only [meaning] at h
  split at h
  · next d hd =>
    cases h
    exact ⟨d, (vacantAt_ok hd).1, (vacantAt_ok hd).2, rfl⟩
  · cases h

lemma meaning_setPathPermissions
    (h : fs.meaning who order (.setPathPermissions path mode) = .ok (v, es)) :
    ∃ r, fs.walk path = .ok r ∧ es = [.chmod r mode] := by
  dsimp only [meaning] at h
  split at h
  · next r hr =>
    cases h
    exact ⟨r, hr, rfl⟩
  · cases h

/-- A listing has every name of the directory, once. -/
lemma meaning_readDirectory {names : List ν}
    (h : fs.meaning who order (.readDirectory path) = .ok (names, es)) :
    ∃ d, fs.directoryAt path = .ok d ∧ es = [] ∧ names.Nodup ∧
      ∀ n, n ∈ names ↔ ∃ r, fs.lookup d n = some r := by
  dsimp only [meaning] at h
  split at h
  · next d hd =>
    have hperm : (if order.Perm (fs.directory d).live.keys then order
        else (fs.directory d).live.keys).Perm (fs.directory d).live.keys := by
      split
      · next hp => exact hp
      · rfl
    cases h
    refine ⟨d, hd, rfl, hperm.nodup_iff.mpr (fs.directory d).live.keys_nodup, fun n => ?_⟩
    rw [← mem_keys]
    exact hperm.mem_iff
  · cases h

lemma meaning_createRoot (hr : fs.root = some r)
    (h : fs.meaning who order (.createRoot mode) = .ok (v, es)) :
    fs.kind r = .directory ∧ es = [] := by
  dsimp only [meaning] at h
  rw [hr] at h
  dsimp only at h
  split at h <;> cases h
  next hk => exact ⟨hk, rfl⟩

/-- A name that already stands for the inode stays as it is. -/
lemma meaning_rename (h : fs.meaning who order (.rename parent m n) = .ok (v, es)) :
    ∃ d r, fs.directoryAt parent = .ok d ∧ fs.lookup d m = some r ∧
      (fs.lookup d n = some r ∧ es = [] ∨ (∀ q, fs.lookup d n = some q → fs.canReplace r q = true) ∧
          es = [.change d [(m, none), (n, some r)]]) := by
  dsimp only [meaning] at h
  split at h
  · next d r he =>
    obtain ⟨hd, hl⟩ := entryAt_ok he
    split at h
    · next hn =>
      cases h
      exact ⟨d, r, hd, hl, .inr ⟨fun q hq => (by cases hn.symm.trans hq), rfl⟩⟩
    next q hq =>
    split at h
    · next hqr =>
      subst hqr
      cases h
      exact ⟨d, q, hd, hl, .inl ⟨hq, rfl⟩⟩
    · split at h <;> cases h
      next hreplace =>
      refine ⟨d, r, hd, hl, .inr ⟨fun q' hq' => ?_, rfl⟩⟩
      cases hq.symm.trans hq'
      exact hreplace
  · cases h

lemma meaning_remove {v : o.Value} (ho : o = .removeFile parent n ∨ o = .removeDirectory parent n)
    (h : fs.meaning who order o = .ok (v, es)) : ∃ d r, fs.directoryAt parent = .ok d ∧
      fs.lookup d n = some r ∧ es = [.change d [(n, none)]] := by
  rcases ho with rfl | rfl
  all_goals
    dsimp only [meaning] at h
    split at h
    · next d r he =>
      split at h <;> cases h
      exact ⟨d, r, (entryAt_ok he).1, (entryAt_ok he).2, rfl⟩
    · cases h

lemma meaning_hardLink (h : fs.meaning who order (.hardLink parent m n) = .ok (v, es)) :
    ∃ d r, fs.directoryAt parent = .ok d ∧ fs.lookup d m = some r ∧ fs.lookup d n = none ∧
      fs.kind r ≠ .directory ∧ es = [.change d [(n, some r)]] := by
  dsimp only [meaning] at h
  split at h
  · next d r he =>
    split at h
    · cases h
    next hn =>
    split at h
    · cases h
    next hk =>
    cases h
    refine ⟨d, r, (entryAt_ok he).1, (entryAt_ok he).2, ?_, hk, rfl⟩
    simpa using hn
  · cases h

/-- Effects after which the file system is again bounded and a tree. -/
def Keeps (fs : FileSystem ν) (es : List (Effect ν)) : Prop :=
  fs.Bounded → (fs.runAll es).Bounded ∧ (fs.Tree → (fs.runAll es).Tree)

lemma keeps_nil : fs.Keeps [] := fun hb => ⟨hb, fun ht => ht⟩

lemma keeps_chmod (r : Ref) (m : ℕ) : fs.Keeps [.chmod r m] :=
  fun hb => ⟨hb.chmod r m, fun ht => ht.of_lookup (.chmod r m) (by simp) (by simp)⟩

lemma keeps_write (r : Ref) (b : List UInt8) : fs.Keeps [.write r b] :=
  fun hb => ⟨hb.write r b, fun ht => ht.of_lookup (.write r b) (by simp) (by simp)⟩

lemma keeps_sync (r : Ref) : fs.Keeps [.sync r] :=
  fun hb => ⟨hb.sync r, fun ht => ht.of_lookup (.sync r) (by simp) (by simp)⟩

lemma keeps_remove (hd : fs.directoryAt parent = .ok d) (n : ν) : fs.Keeps [.change d [(n, none)]] :=
  fun hb => ⟨hb.change (directoryAt_lt hb hd) (by simp), fun ht => ht.unlink d n⟩

lemma keeps_rename (hd : fs.directoryAt parent = .ok d) (hm : fs.lookup d m = some r) (n : ν) :
    fs.Keeps [.change d [(m, none), (n, some r)]] :=
  fun hb => ⟨hb.change (directoryAt_lt hb hd) (by simpa using (hb.lookup_lt hm).2),
    fun ht => ht.rename hm⟩

lemma keeps_link (hd : fs.directoryAt parent = .ok d) (hm : fs.lookup d m = some r)
    (hk : fs.kind r ≠ .directory) (n : ν) : fs.Keeps [.change d [(n, some r)]] :=
  fun hb => ⟨hb.change (directoryAt_lt hb hd) (by simpa using (hb.lookup_lt hm).2),
    fun ht => ht.link fun h => absurd h hk⟩

lemma keeps_create (hd : fs.directoryAt parent = .ok d) (n : ν) (a : Attributes) :
    fs.Keeps [.allocate a, .change d [(n, some fs.next)]] := by
  intro hb
  constructor
  · refine (hb.allocate a).change ?_ ?_
    · exact Nat.lt_succ_of_lt (directoryAt_lt hb hd)
    intro m r hmem
    cases List.mem_singleton.mp hmem
    exact Nat.lt_succ_self _
  · intro ht
    refine (ht.allocate hb a).link fun _ e m h => ?_
    -- no name refers to an inode that was not there before
    rw [lookup_allocate] at h
    split at h
    · cases h
    · exact Nat.lt_irrefl _ (hb.lookup_lt h).2

lemma meaning_keeps {v : o.Value} (h : fs.meaning who order o = .ok (v, es)) : fs.Keeps es := by
  cases o with
  | openDirectory | openFile | symlinkMetadata | readDirectory =>
    dsimp only [meaning] at h
    split at h
    · first
        | split at h <;> cases h <;> exact keeps_nil
        | cases h; exact keeps_nil
    · cases h
  | metadata =>
    cases h
    exact keeps_nil
  | read =>
    dsimp only [meaning] at h
    split at h <;> cases h
    exact keeps_nil
  | createFile =>
    obtain ⟨d, hd, -, -, rfl⟩ := meaning_createFile h
    exact keeps_create hd _ _
  | createDirectory =>
    obtain ⟨d, hd, -, rfl⟩ := meaning_createDirectory h
    exact keeps_create hd _ _
  | createRoot =>
    dsimp only [meaning] at h
    split at h
    · cases h
      exact fun hb => ⟨(hb.allocate _).setRoot (Nat.lt_succ_self fs.next),
        fun ht => (ht.allocate hb _).of_lookup (.setRoot fs.next) (by simp) (by simp)⟩
    · split at h <;> cases h
      exact keeps_nil
  | setPermissions =>
    cases h
    exact keeps_chmod _ _
  | setPathPermissions =>
    obtain ⟨r, -, rfl⟩ := meaning_setPathPermissions h
    exact keeps_chmod _ _
  | write =>
    cases h
    exact keeps_write _ _
  | sync =>
    cases h
    exact keeps_sync _
  | rename =>
    obtain ⟨d, r, hd, hm, ⟨-, rfl⟩ | ⟨-, rfl⟩⟩ := meaning_rename h
    · exact keeps_nil
    · exact keeps_rename hd hm _
  | removeFile =>
    obtain ⟨d, r, hd, -, rfl⟩ := meaning_remove (.inl rfl) h
    exact keeps_remove hd _
  | removeDirectory =>
    obtain ⟨d, r, hd, -, rfl⟩ := meaning_remove (.inr rfl) h
    exact keeps_remove hd _
  | hardLink =>
    obtain ⟨d, r, hd, hm, -, hk, rfl⟩ := meaning_hardLink h
    exact keeps_link hd hm hk _

lemma torn_keeps (bytes : List UInt8) (o : FileOp ν) : fs.Keeps (torn bytes o) := by
  cases o with
  | write => exact keeps_write _ _
  | _ => exact keeps_nil

/-- A call fails for a reason of its own, or it does what its meaning says. -/
lemma exec_cases {fault : Option (List UInt8)} {P : Except FileError o.Value × FileSystem ν → Prop}
    (hfault : ∀ b, fault = some b → P (.error .failed, fs.runAll (torn b o)))
    (hok : ∀ v es, fs.meaning who order o = .ok (v, es) → P (.ok v, fs.runAll es))
    (herr : ∀ e, fs.meaning who order o = .error e → P (.error e, fs)) :
    P (fs.exec who fault order o) := by
  unfold exec
  split
  · next b => exact hfault b rfl
  split
  · next v es hm => exact hok v es hm
  · next e hm => exact herr e hm

lemma exec_bounded (hb : fs.Bounded) (who : Credentials) (fault : Option (List UInt8))
    (order : List ν) (o : FileOp ν) : (fs.exec who fault order o).2.Bounded :=
  exec_cases (P := fun r => r.2.Bounded) (fun b _ => (torn_keeps b o hb).1)
    (fun _ _ h => (meaning_keeps h hb).1) fun _ _ => hb

end FileSystem
