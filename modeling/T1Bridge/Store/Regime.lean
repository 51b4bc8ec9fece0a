import T1Bridge.Store.View

/-! # Regimes

A `Regime` is a property of the file system together with the operations that keep it, whatever
they are answered and whether they fail.  `Acts R p post w` says that the program `p` asks only
operations of the regime, so that its property holds wherever the program is stopped, and that
its success means `post`; `MethodActs` says the same of a method of a transaction. -/

namespace T1Bridge.Store

open FileSystem CatacombPairTransaction
open Prog (wp wp_method_bind wp_mono wp_seq)

/-- An invariant of the file system with the calls that keep it. -/
structure Regime where
  inv : FileSystem Name → Prop
  allows : HostOp → Prop
  look : ∀ op, op.IsLook → allows op
  stable : ∀ (w : World) op c, inv w.fs → allows op → inv (Host.exec c w op).2.fs

/-- What is known at every operation of a program under a regime. -/
def Regime.Inside (R : Regime) (w : World) (op : HostOp) : Prop := R.inv w.fs ∧ R.allows op

/-- The credentials and the reliability of the world have not changed. -/
def Beyond (w w' : World) : Prop :=
  w'.who = w.who ∧ w'.reliable = w.reliable

lemma Beyond.refl (w : World) : Beyond w w := ⟨rfl, rfl⟩

lemma Beyond.trans {w w' w'' : World} (h : Beyond w w') (h' : Beyond w' w'') : Beyond w w'' :=
  ⟨h'.1.trans h.1, h'.2.trans h.2⟩

variable {R : Regime} {w : World} {α β ε : Type}

/-! ### Functions that can fail -/

/-- The program stays inside the regime and its success has `post`. -/
def Acts (R : Regime) (p : ExceptT ε HostProg α) (post : α → World → Prop) (w : World) : Prop :=
  wp Host R.Inside p.run (fun r w' => R.inv w'.fs ∧ Beyond w w' ∧ ∀ a, r = .ok a → post a w') w

variable {p : StoreM α} {o : FileOp Name} {parent : List Name} {n : Name}
  {view : World → Outcome α} {f : α → ExceptT ε HostProg β} {directory : Name}

section Results

variable {post : α → World → Prop}

lemma Acts.bind {p : ExceptT ε HostProg α}
    {post' : β → World → Prop} (hp : Acts R p post w)
    (hf : ∀ a w', R.inv w'.fs → Beyond w w' → post a w' →
      Acts R (f a) post' w') : Acts R (p >>= f) post' w := by
  rw [Acts, Prog.wp_except_bind]
  refine wp_mono ?_ hp
  rintro (e | a) w' ⟨hw, hb, h⟩
  · exact ⟨hw, hb, nofun⟩
  refine wp_mono ?_ (hf a w' hw hb (h a rfl))
  rintro r w'' ⟨hw', hb', h'⟩
  exact ⟨hw', hb.trans hb', h'⟩

lemma Acts.mono {p : ExceptT ε HostProg α} {post' : α → World → Prop} (hp : Acts R p post w)
    (h : ∀ a w', R.inv w'.fs → Beyond w w' → post a w' → post' a w') : Acts R p post' w := by
  refine wp_mono ?_ hp
  rintro r w' ⟨hw, hb, hpost⟩
  exact ⟨hw, hb, fun a ha => h a w' hw hb (hpost a ha)⟩

lemma Acts.pure (hw : R.inv w.fs) {a : α}
    (h : post a w) : Acts R (Pure.pure a : ExceptT ε HostProg α) post w :=
  ⟨hw, Beyond.refl w, fun b hb => by cases hb; exact h⟩

lemma Acts.throw (hw : R.inv w.fs) (e : ε) : Acts R (throw e : ExceptT ε HostProg α) post w :=
  ⟨hw, Beyond.refl w, nofun⟩

lemma Acts.ofExcept {x : Except ε α} (hw : R.inv w.fs)
    (h : ∀ a, x = .ok a → post a w) : Acts R (ExceptT.mk (Pure.pure x)) post w :=
  ⟨hw, Beyond.refl w, h⟩

lemma Acts.mapError (f : CatacombStoreError → ε)
    (hp : Acts R p post w) : Acts R (ExceptT.mk (Except.mapError f <$> p.run)) post w := by
  change wp Host R.Inside (Except.mapError f <$> p.run) _ w
  rw [Prog.wp_map]
  refine wp_mono ?_ hp
  rintro (e | a) w' ⟨hw, hb, h⟩
  · exact ⟨hw, hb, nofun⟩
  refine ⟨hw, hb, fun b hb' => ?_⟩
  cases hb'
  exact h a rfl

lemma Acts.reads (hp : Reads p view) (hw : R.inv w.fs)
    (h : ∀ a, view w = .ok a → post a w) : Acts R p post w := by
  refine hp.wp (fun op hop => ⟨hw, R.look op hop⟩) ⟨hw, Beyond.refl w, h⟩ ?_
  rintro - r (rfl | rfl) <;> exact ⟨hw, Beyond.refl w, nofun⟩

lemma Acts.reads_bind {f : α → StoreM β} {post : β → World → Prop} (hp : Reads p view)
    (hw : R.inv w.fs) (h : ∀ a, view w = .ok a → Acts R (f a) post w) :
    Acts R (p >>= f) post w := by
  refine (Acts.reads hp hw fun _ ha => ⟨rfl, ha⟩ :
    Acts R p (fun a w' => w = w' ∧ view w = .ok a) w).bind ?_
  rintro a _ - - ⟨rfl, ha⟩
  exact h a ha

lemma Regime.wp_call {post : Except FileError o.Value → World → Prop}
    (hw : R.inv w.fs) (ho : R.allows (.file o))
    (hok : ∀ order v es, w.fs.meaning w.who order o = .ok (v, es) →
      ∀ h, post (.ok v) (w.withFs (w.fs.runAll es) h))
    (herr : ∀ e w', R.inv w'.fs → Beyond w w' → post (.error e) w') :
    wp Host R.Inside (call o) (fun r w' => R.inv w'.fs ∧ Beyond w w' ∧ post r w') w := by
  have hinv : wp Host R.Inside (call o) (fun _ w' => R.inv w'.fs) w :=
    Prog.wp_perform ⟨hw, ho⟩ fun c _ => R.stable w _ c hw ho
  have hpost : wp Host R.Inside (call o)
      (fun r w' => Beyond w w' ∧ (R.inv w'.fs → post r w')) w := by
    refine Store.wp_call ⟨hw, ho⟩ (fun _ b hb => ?_) (fun order v es hm hb => ?_)
      (fun order e _ => ?_)
    · exact ⟨⟨rfl, rfl⟩, fun hw' => herr _ _ hw' ⟨rfl, rfl⟩⟩
    · exact ⟨⟨rfl, rfl⟩, fun _ => hok order v es hm hb⟩
    · exact ⟨Beyond.refl w, fun hw' => herr _ _ hw' (Beyond.refl w)⟩
  refine Prog.wp_weaken (fun _ _ h => h.1) ?_ (Prog.wp_and hinv hpost)
  rintro r w' ⟨hw', hb, h⟩
  exact ⟨hw', hb, h hw'⟩

lemma Acts.lift {p : HostProg α}
    (h : wp Host R.Inside p (fun a w' => R.inv w'.fs ∧ Beyond w w' ∧ post a w') w) :
    Acts R (ExceptT.lift p : ExceptT ε HostProg α) post w := by
  rw [Acts, Prog.wp_except_lift]
  refine wp_mono ?_ h
  rintro r w' ⟨hw', hb, hpost⟩
  refine ⟨hw', hb, fun a ha => ?_⟩
  cases ha
  exact hpost

lemma Acts.caught (hp : Acts R p post w) :
    Acts R (ExceptT.lift p.run : ExceptT ε HostProg _) (fun r w' => ∀ a, r = .ok a → post a w') w :=
  Acts.lift hp

end Results

section

variable (hw : R.inv w.fs) {r : Ref} {d : Ref} {m : ℕ}

include hw

lemma acts_attempt {post : Except FileError o.Value → World → Prop} (ho : R.allows (.file o))
    (hok : ∀ order v es, w.fs.meaning w.who order o = .ok (v, es) →
      ∀ h, post (.ok v) (w.withFs (w.fs.runAll es) h))
    (herr : ∀ e w', R.inv w'.fs → Beyond w w' → post (.error e) w') :
    Acts R (attempt o) post w := Acts.lift (R.wp_call hw ho hok herr)

lemma acts_unavailable {post : o.Value → World → Prop} (ho : R.allows (.file o))
    (hok : ∀ order v es, w.fs.meaning w.who order o = .ok (v, es) →
      ∀ h, post v (w.withFs (w.fs.runAll es) h)) : Acts R (unavailable o) post w := by
  have hatt : Acts R (attempt o) (fun a w' => ∀ v, a = .ok v → post v w') w := by
    refine acts_attempt hw ho (fun order v es hm h v' hv => ?_) nofun
    cases hv
    exact hok order v es hm h
  refine hatt.bind fun a w' hw' _ h => ?_
  cases a with
  | ok v => exact Acts.pure hw' (h v rfl)
  | error e => exact Acts.throw hw' _

/-! ### The store's functions -/

lemma acts_setPermissions (ho : R.allows (.file (.setPermissions r m))) :
    Acts R (unavailable (.setPermissions r m))
      (fun _ w' => w'.fs = (Effect.chmod r m).run w.fs) w := by
  refine acts_unavailable hw ho fun order v es hm h => ?_
  cases hm
  rfl

lemma acts_write {b : List UInt8} (ho : R.allows (.file (.write r b))) :
    Acts R (unavailable (.write r b))
      (fun _ w' => w'.fs = (Effect.write r (w.fs.bytes r ++ b)).run w.fs) w := by
  refine acts_unavailable hw ho fun order v es hm h => ?_
  cases hm
  rfl

lemma acts_sync (ho : R.allows (.file (.sync r))) :
    Acts R (unavailable (.sync r)) (fun _ w' => w'.fs = (Effect.sync r).run w.fs) w := by
  refine acts_unavailable hw ho fun order v es hm h => ?_
  cases hm
  rfl

lemma acts_createFile (ho : R.allows (.file (.createFile parent n m)))
    (hd : w.fs.directoryAt parent = .ok d) :
    Acts R (unavailable (.createFile parent n m))
      (fun v w' => v = w.fs.next ∧ w.fs.lookup d n = none ∧ w'.fs = w.fs.runAll
        [.allocate ⟨.regular, m, w.who⟩, .change d [(n, some w.fs.next)]]) w := by
  refine acts_unavailable hw ho fun order v es hm h => ?_
  obtain ⟨d', hd', hn, rfl, rfl⟩ := meaning_createFile hm
  cases hd.symm.trans hd'
  exact ⟨rfl, hn, rfl⟩

lemma acts_readDirectory {path : List Name} (hd : w.fs.directoryAt path = .ok d) :
    Acts R (unavailable (.readDirectory path)) (fun (names : List Name) w' => w = w' ∧ names.Nodup ∧
        ∀ n, n ∈ names ↔ ∃ r, w.fs.lookup d n = some r) w := by
  refine wp_readDirectory ⟨hw, R.look _ trivial⟩ hd (fun names hnodup hnames => ?_) fun _ => ?_
  · refine ⟨hw, Beyond.refl w, fun names' h => ?_⟩
    cases h
    exact ⟨rfl, hnodup, hnames⟩
  · exact ⟨hw, Beyond.refl w, nofun⟩

/-- The regime allows writing the file `r` and making it durable. -/
structure Regime.Writes (R : Regime) (r : Ref) : Prop where
  chmod : ∀ m, R.allows (.file (.setPermissions r m))
  write : ∀ b, R.allows (.file (.write r b))
  sync : R.allows (.file (.sync r))

/-- The regime allows creating files and writing any file. -/
structure Regime.Files (R : Regime) : Prop where
  create : ∀ parent n m, R.allows (.file (.createFile parent n m))
  writes : ∀ r, R.Writes r

/-- What writing a new file of these bytes has done to the file system. -/
def blobEffects (fs : FileSystem Name) (who : Credentials) (d : Ref) (n : Name)
    (b : List UInt8) : List (Effect Name) :=
  [.allocate ⟨.regular, 0o600, who⟩, .change d [(n, some fs.next)], .chmod fs.next 0o600,
    .write fs.next b, .sync fs.next]

lemma acts_writeNewBlob {g : Ref} (hd : w.fs.directoryAt [directory] = .ok g)
    (ho : R.allows (.file (.createFile [directory] n 0o600))) (hr : R.Writes w.fs.next)
    (b : List UInt8) : Acts R (writeNewBlob directory n b) (fun _ w' => w.fs.lookup g n = none ∧
        w'.fs = w.fs.runAll (blobEffects w.fs w.who g n b)) w := by
  refine (acts_createFile hw ho hd).bind ?_
  rintro _ w1 hw1 - ⟨rfl, hn, h1⟩
  refine (acts_setPermissions hw1 (hr.chmod _)).bind fun _ w2 hw2 _ h2 => ?_
  refine (acts_write hw2 (hr.write b)).bind fun _ w3 hw3 _ h3 => ?_
  refine (acts_sync hw3 hr.sync).mono fun _ w4 _ _ h4 => ⟨hn, ?_⟩
  have hbytes : w2.fs.bytes w.fs.next = [] := by
    rw [h2, h1]
    simp [runAll, bytes_allocate]
  rw [h4, h3, hbytes, h2, h1]
  rfl

/-- What writing a marker has done to the file system. -/
def markerEffects (fs : FileSystem Name) (who : Credentials) (d : Ref) (n generation : Name) :
    List (Effect Name) :=
  [.allocate ⟨.regular, 0o600, who⟩, .change d [(n, some fs.next)], .chmod fs.next 0o600,
    .write fs.next generation, .write fs.next (generation ++ [10]), .sync fs.next]

lemma acts_writeMarker (hd : w.fs.directoryAt [] = .ok d)
    (ho : R.allows (.file (.createFile [] n 0o600))) (hr : R.Writes w.fs.next) (generation : Name) :
    Acts R (writeMarker n generation)
      (fun _ w' => w'.fs = w.fs.runAll (markerEffects w.fs w.who d n generation)) w := by
  refine (acts_createFile hw ho hd).bind ?_
  rintro _ w1 hw1 - ⟨rfl, -, h1⟩
  refine (acts_setPermissions hw1 (hr.chmod _)).bind fun _ w2 hw2 _ h2 => ?_
  refine (acts_write hw2 (hr.write generation)).bind fun _ w3 hw3 _ h3 => ?_
  refine (acts_write hw3 (hr.write [10])).bind fun _ w4 hw4 _ h4 => ?_
  refine (acts_sync hw4 hr.sync).mono fun _ w5 _ _ h5 => ?_
  have hbytes : w2.fs.bytes w.fs.next = [] := by
    rw [h2, h1]
    simp [runAll, bytes_allocate]
  have hbytes' : w3.fs.bytes w.fs.next = generation := by
    rw [h3, hbytes, bytes_write, if_pos rfl]
    rfl
  rw [h5, h4, hbytes', h3, hbytes, h2, h1]
  rfl

lemma acts_removePrivateFile (ho : R.allows (.file (.removeFile parent n))) :
    Acts R (removePrivateFile parent n)
      (fun _ w' => w.fs.walk (parent ++ [n]) = .error .notFound ∧ w'.fs = w.fs ∨
        ∃ d, w.fs.directoryAt parent = .ok d ∧
          w'.fs = (Effect.change d [(n, none)]).run w.fs) w := by
  have hlook : Acts R (attempt (.symlinkMetadata (parent ++ [n])))
      (fun a w' => w'.fs = w.fs ∧ (a = .error .notFound →
        w.fs.walk (parent ++ [n]) = .error .notFound)) w := by
    refine Acts.lift (wp_look (looks_symlinkMetadata _) ⟨hw, R.look _ trivial⟩
      ⟨hw, Beyond.refl w, rfl, fun he => ?_⟩ fun _ => ⟨hw, Beyond.refl w, rfl, nofun⟩)
    cases hwalk : w.fs.walk (parent ++ [n]) <;> rw [hwalk] at he <;> cases he
    rfl
  refine hlook.bind fun a w1 hw1 _ h1 => ?_
  cases a with
  | ok m =>
    refine Acts.reads_bind (reads_validatePrivateFileMetadata m) hw1 fun _ _ => ?_
    refine acts_unavailable hw1 ho fun order v es hm h => .inr ?_
    obtain ⟨d, r, hd, -, rfl⟩ := meaning_remove (.inl rfl) hm
    rw [h1.1] at hd
    refine ⟨d, hd, ?_⟩
    rw [World.withFs_fs, h1.1]
    rfl
  | error e =>
    cases e with
    | notFound => exact Acts.pure hw1 (.inl ⟨h1.2 rfl, h1.1⟩)
    | alreadyExists | failed => exact Acts.throw hw1 _

end

/-- The function keeps to the regime, whatever it returns. -/
def Keeps (R : Regime) (p : ExceptT ε HostProg α) : Prop :=
  ∀ w, R.inv w.fs → Acts R p (fun _ _ => True) w

namespace Keeps

lemma bind {p : ExceptT ε HostProg α} (hp : Keeps R p)
    (hf : ∀ a, Keeps R (f a)) : Keeps R (p >>= f) :=
  fun w hw => (hp w hw).bind fun a w' hw' _ _ => hf a w' hw'

lemma pure (a : α) : Keeps R (Pure.pure a : ExceptT ε HostProg α) :=
  fun _ hw => Acts.pure hw trivial

lemma throw (e : ε) : Keeps R (throw e : ExceptT ε HostProg α) := fun _ hw => Acts.throw hw e

lemma ofExcept (x : Except ε α) : Keeps R (ExceptT.mk (Pure.pure x)) :=
  fun _ hw => Acts.ofExcept hw fun _ _ => trivial

lemma mapError (f : CatacombStoreError → ε) (hp : Keeps R p) :
    Keeps R (ExceptT.mk (Except.mapError f <$> p.run)) := fun w hw => (hp w hw).mapError f

lemma reads (hp : Reads p view) : Keeps R p := fun _ hw => Acts.reads hp hw fun _ _ => trivial

lemma attempt (ho : R.allows (.file o)) : Keeps R (attempt o) :=
  fun _ hw => acts_attempt hw ho (fun _ _ _ _ _ => trivial) fun _ _ _ _ => trivial

lemma unavailable (ho : R.allows (.file o)) : Keeps R (unavailable o) :=
  fun _ hw => acts_unavailable hw ho fun _ _ _ _ _ => trivial

lemma ite {c : Prop} [Decidable c] {p q : ExceptT ε HostProg α} (hp : Keeps R p) (hq : Keeps R q) :
    Keeps R (if c then p else q) := by
  split
  · exact hp
  · exact hq

end Keeps

lemma keeps_removePrivateFile
    (ho : R.allows (.file (.removeFile parent n))) : Keeps R (removePrivateFile parent n) :=
  fun _ hw => (acts_removePrivateFile hw ho).mono fun _ _ _ _ _ => trivial

lemma keeps_removePairFiles
    (ho : ∀ n, isPairFile n = true → R.allows (.file (.removeFile [directory] n)))
    (names : List Name) : Keeps R (removePairFiles directory names) := by
  induction names with
  | nil => exact Keeps.pure ()
  | cons n names ih =>
    unfold removePairFiles
    split
    · exact Keeps.throw _
    next hn =>
    have hpair : isPairFile n = true := by
      simp only [Bool.or_eq_true, Bool.not_eq_true', not_or, Bool.not_eq_false] at hn
      exact hn.2
    exact (keeps_removePrivateFile (ho n hpair)).bind fun _ => ih

lemma keeps_removePrivateGeneration {name : Name}
    (ho : ∀ n, isPairFile n = true → R.allows (.file (.removeFile [name] n)))
    (hd : R.allows (.file (.removeDirectory [] name))) :
    Keeps R (removePrivateGeneration name) := by
  refine (Keeps.attempt (o := .symlinkMetadata [name]) (R.look _ trivial)).bind fun a => ?_
  cases a with
  | ok m =>
    refine (Keeps.reads (reads_validateDirectoryMetadata m)).bind fun _ => ?_
    refine (Keeps.unavailable (o := .readDirectory [name]) (R.look _ trivial)).bind fun names => ?_
    exact (keeps_removePairFiles ho names).bind fun _ => Keeps.unavailable hd
  | error e =>
    cases e with
    | notFound => exact Keeps.pure ()
    | alreadyExists | failed => exact Keeps.throw _

section

variable (hR : R.Files)
include hR

lemma keeps_writeNewBlob (directory n : Name) (b : List UInt8) :
    Keeps R (writeNewBlob directory n b) := by
  refine (Keeps.unavailable (o := .createFile [directory] n 0o600) (hR.create _ _ _)).bind
    fun r => ?_
  refine (Keeps.unavailable (o := .setPermissions r 0o600) ((hR.writes r).chmod _)).bind fun _ => ?_
  refine (Keeps.unavailable (o := .write r b) ((hR.writes r).write _)).bind fun _ => ?_
  exact Keeps.unavailable (o := .sync r) (hR.writes r).sync

lemma keeps_syncDirectory (n : Name) : Keeps R (syncDirectory n) := by
  refine (Keeps.reads (reads_openCheckedDirectory [n])).bind fun r => ?_
  exact Keeps.unavailable (o := .sync r) (hR.writes r).sync

end

/-! ### Methods -/

variable {safe : World → HostOp → Prop} {tx : CatacombPairTransaction} {x : StoreM α}

lemma wp_storeStep {Q : Outcome α × CatacombPairTransaction →
    World → Prop} (h : wp Host safe x.run (fun r w => Q (r, tx) w) w) :
    wp Host safe ((storeStep x).run.run tx) Q w := by
  change wp Host safe (x.run >>= fun r => pure (r, tx)) Q w
  rw [Prog.wp_bind]
  exact h

/-- What a method leaves as it is before the marker is replaced. -/
structure Follows (tx tx' : CatacombPairTransaction) : Prop where
  token : tx'.token = tx.token
  directory : tx'.directory = tx.directory
  recoveryReserved : tx.recoveryReserved = true → tx'.recoveryReserved = true
  generationRenamed : tx.generationRenamed = true → tx'.generationRenamed = true

lemma Follows.refl (tx : CatacombPairTransaction) : Follows tx tx := ⟨rfl, rfl, id, id⟩

lemma Follows.trans {tx tx' tx'' : CatacombPairTransaction} (h : Follows tx tx')
    (h' : Follows tx' tx'') : Follows tx tx'' :=
  ⟨h'.token.trans h.token, h'.directory.trans h.directory,
    fun hr => h'.recoveryReserved (h.recoveryReserved hr),
    fun hr => h'.generationRenamed (h.generationRenamed hr)⟩

/-- The method keeps to the regime, and its success means `post`. -/
def MethodActs (R : Regime) (body : TransactionM α) (tx : CatacombPairTransaction)
    (post : α → CatacombPairTransaction → World → Prop) (w : World) : Prop :=
  wp Host R.Inside (body.run.run tx) (fun r w' => R.inv w'.fs ∧ Beyond w w' ∧ Follows tx r.2 ∧
      ∀ a, r.1 = .ok a → post a r.2 w') w

variable {body : TransactionM α} {post : α → CatacombPairTransaction → World → Prop}

lemma MethodActs.bind {f : α → TransactionM β}
    {post' : β → CatacombPairTransaction → World → Prop} (hb : MethodActs R body tx post w)
    (hf : ∀ a tx' w', R.inv w'.fs → Beyond w w' → Follows tx tx' → post a tx' w' →
      MethodActs R (f a) tx' post' w') : MethodActs R (body >>= f) tx post' w := by
  rw [MethodActs, Prog.wp_method_bind]
  refine wp_mono ?_ hb
  rintro ⟨e | a, tx'⟩ w' ⟨hw, hbey, hfol, h⟩
  · exact ⟨hw, hbey, hfol, nofun⟩
  refine wp_mono ?_ (hf a tx' w' hw hbey hfol (h a rfl))
  rintro r w'' ⟨hw', hbey', hfol', h'⟩
  exact ⟨hw', hbey.trans hbey', hfol.trans hfol', h'⟩

lemma MethodActs.mono {post' : α → CatacombPairTransaction → World → Prop}
    (hb : MethodActs R body tx post w)
    (h : ∀ a tx' w', R.inv w'.fs → Beyond w w' → Follows tx tx' → post a tx' w' →
      post' a tx' w') : MethodActs R body tx post' w := by
  refine wp_mono ?_ hb
  rintro r w' ⟨hw, hbey, hfol, hpost⟩
  exact ⟨hw, hbey, hfol, fun a ha => h a r.2 w' hw hbey hfol (hpost a ha)⟩

lemma MethodActs.pure {a : α} (hw : R.inv w.fs) (h : post a tx w) :
    MethodActs R (Pure.pure a) tx post w :=
  ⟨hw, Beyond.refl w, Follows.refl tx, fun b hb => by cases hb; exact h⟩

lemma MethodActs.throw (hw : R.inv w.fs) (e : CatacombStoreError) :
    MethodActs R (throw e) tx post w :=
  ⟨hw, Beyond.refl w, Follows.refl tx, nofun⟩

lemma MethodActs.ofExcept {x : Outcome α} (hw : R.inv w.fs)
    (h : ∀ a, x = .ok a → post a tx w) : MethodActs R (ofExcept x) tx post w :=
  ⟨hw, Beyond.refl w, Follows.refl tx, h⟩

lemma MethodActs.get_bind {f : CatacombPairTransaction → TransactionM α}
    (h : MethodActs R (f tx) tx post w) : MethodActs R (get >>= f) tx post w := h

lemma MethodActs.modify_bind {g : CatacombPairTransaction → CatacombPairTransaction}
    {f : Unit → TransactionM α} (hg : Follows tx (g tx)) (h : MethodActs R (f ()) (g tx) post w) :
    MethodActs R (modify g >>= f) tx post w := by
  refine wp_mono ?_ h
  rintro r w' ⟨hw, hb, hf, hpost⟩
  exact ⟨hw, hb, hg.trans hf, hpost⟩

lemma MethodActs.modify {g : CatacombPairTransaction → CatacombPairTransaction}
    {post : Unit → CatacombPairTransaction → World → Prop} (hw : R.inv w.fs)
    (hg : Follows tx (g tx)) (h : post () (g tx) w) : MethodActs R (modify g) tx post w :=
  ⟨hw, Beyond.refl w, hg, fun _ _ => h⟩

lemma Acts.storeStep {post : α → World → Prop} (h : Acts R x post w) :
    MethodActs R (storeStep x) tx (fun a tx' w' => tx = tx' ∧ post a w') w := by
  refine wp_storeStep (wp_mono ?_ h)
  rintro r w' ⟨hw, hb, hpost⟩
  exact ⟨hw, hb, Follows.refl tx, fun a ha => ⟨rfl, hpost a ha⟩⟩

section

variable (hR : R.Files)
include hR

lemma acts_writeMember_of (hw : R.inv w.fs) (n : Name) (b : List UInt8)
    (next : TransactionState) : MethodActs R (writeMember n b next) tx (fun _ _ _ => True) w := by
  refine MethodActs.get_bind ?_
  refine (keeps_writeNewBlob hR _ n b w hw).storeStep.bind ?_
  rintro _ _ w1 hw1 - - ⟨rfl, -⟩
  refine (keeps_syncDirectory hR _ w1 hw1).storeStep.bind ?_
  rintro _ _ w2 hw2 - - ⟨rfl, -⟩
  exact MethodActs.modify hw2 ⟨rfl, rfl, id, id⟩ trivial

/-- The `write_*` methods: the state is tested, the bytes are checked, the file is written. -/
lemma acts_write_of (hw : R.inv w.fs) {refused : CatacombPairTransaction → Prop}
    [∀ tx, Decidable (refused tx)] (check : Outcome Unit) (n : Name)
    (b : List UInt8) (next : TransactionState) :
    MethodActs R (do
      let tx ← get
      if refused tx then throw .invalidTransactionState
      else ofExcept check >>= fun _ => writeMember n b next) tx (fun _ _ _ => True) w := by
  refine MethodActs.get_bind ?_
  split
  · exact MethodActs.throw hw _
  refine (MethodActs.ofExcept hw fun _ _ => rfl : MethodActs R _ tx
    (fun _ _ w' => w = w') w).bind ?_
  rintro _ tx1 _ - - - rfl
  exact acts_writeMember_of hR hw n b next

end

lemma wp_releaseRecovery (hw : R.inv w.fs)
    (hremove : R.allows (.file (.removeFile [] (recoveryName tx.token))))
    (hsync : R.allows (.file (.sync tx.directory))) :
    wp Host R.Inside (releaseRecovery.run.run tx)
      (fun r w' => R.inv w'.fs ∧ Beyond w w' ∧ r.2.token = tx.token ∧
        r.2.markerReplaced = tx.markerReplaced) w := by
  change wp Host _ ((if tx.recoveryReserved then _ else _ : TransactionM Unit).run.run tx) _ w
  split
  · rw [wp_method_bind]
    refine wp_storeStep (wp_mono ?_ (acts_removePrivateFile hw hremove))
    rintro (e | u) w1 ⟨hw1, hb1, -⟩
    · exact ⟨hw1, hb1, rfl, rfl⟩
    dsimp only
    rw [wp_method_bind]
    refine wp_storeStep (wp_mono ?_ (acts_sync hw1 hsync))
    rintro (e | u) w2 ⟨hw2, hb2, -⟩ <;> exact ⟨hw2, hb1.trans hb2, rfl, rfl⟩
  · exact ⟨hw, Beyond.refl w, rfl, rfl⟩

lemma wp_drop (hw : R.inv w.fs)
    (htemporary : R.allows (.file (.removeFile [] (markerTemporaryName tx.token))))
    (hstage : tx.recoveryReserved ≠ true → Keeps R (removePrivateGeneration (stageName tx.token)))
    (hgeneration : tx.recoveryReserved ≠ true → tx.markerReplaced ≠ true →
      Keeps R (removePrivateGeneration (generationName tx.token))) :
    wp Host R.Inside tx.drop (fun _ w' => R.inv w'.fs ∧ Beyond w w') w := by
  refine wp_seq (acts_removePrivateFile hw htemporary) ?_
  rintro - w1 ⟨hw1, hb1, -⟩
  split
  · exact ⟨hw1, hb1⟩
  next hres =>
  refine wp_seq (hstage hres w1 hw1) ?_
  rintro - w2 ⟨hw2, hb2, -⟩
  split
  · exact ⟨hw2, hb1.trans hb2⟩
  next hmarker =>
  refine wp_seq (hgeneration hres hmarker w2 hw2) ?_
  rintro - w3 ⟨hw3, hb3, -⟩
  exact ⟨hw3, (hb1.trans hb2).trans hb3⟩

end T1Bridge.Store
