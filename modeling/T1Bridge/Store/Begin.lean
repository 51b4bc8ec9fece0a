import T1Bridge.Store.Promotion

/-! # Beginning a transaction

`begin_transaction` looks at the store directory, refuses when a recovery is reserved, and makes
the staging directory of a new token.  On a store directory that exists it changes nothing else,
except that it may set the mode of the directory again when the look at it failed. -/

namespace T1Bridge.Store

open FileSystem CatacombPairTransaction

/-- The mode of the store directory may have been set again. -/
def Touched (root : Ref) (fs0 fs : FileSystem Name) : Prop :=
  fs = fs0 ∨ fs = (Effect.chmod root 0o700).run fs0

/-- What `prepare_directory` asks for. -/
def PrepareOp (op : HostOp) : Prop :=
  op.IsLook ∨ op = .artifactToken ∨ op = .file (.createRoot 0o700) ∨
    op = .file (.setPathPermissions [] 0o700)

namespace Touched

variable {fs0 fs : FileSystem Name} {root : Ref}

lemma root_eq (h : Touched root fs0 fs) : fs.root = fs0.root := by
  rcases h with rfl | rfl <;> rfl

lemma rootSynced (h : Touched root fs0 fs) : fs.rootSynced = fs0.rootSynced := by
  rcases h with rfl | rfl <;> rfl

lemma chmod (h : Touched root fs0 fs) : Touched root fs0 ((Effect.chmod root 0o700).run fs) := by
  rcases h with rfl | rfl
  · exact .inr rfl
  · refine Or.inr ?_
    simp [Effect.run]

lemma exec {w : World} (h : Touched root fs0 w.fs) (hroot : fs0.root = some root) {op : HostOp}
    (ho : PrepareOp op) (c : Choice) : Touched root fs0 (Host.exec c w op).2.fs := by
  have hw : w.fs.root = some root := h.root_eq.trans hroot
  refine exec_keeps h ?_ ?_ c
  · rintro o rfl order v es hm
    rcases ho with ho | ho | ho | ho
    · rw [meaning_look ho hm]
      exact h
    · cases ho
    · cases ho
      rw [(meaning_createRoot hw hm).2]
      exact h
    · cases ho
      obtain ⟨r, hr, rfl⟩ := meaning_setPathPermissions hm
      rw [walk, hw] at hr
      cases hr
      exact h.chmod
  · rintro r b b' rfl
    rcases ho with ho | ho | ho | ho <;> cases ho

end Touched

@[reducible] def preparing (root : Ref) {fs0 : FileSystem Name} (hroot : fs0.root = some root) :
    Regime where
  inv := Touched root fs0
  allows := PrepareOp
  look _ h := Or.inl h
  stable _ _ c h ho := h.exec hroot ho c

variable {fs0 : FileSystem Name} {root : Ref} {w : World} {R : Regime} {t : Name}

lemma acts_openExistingDirectory (hw : R.inv w.fs) : Acts R openExistingDirectory
      (fun r w' => w = w' ∧ storeView w.fs w.who.uid = .ok r) w :=
  Acts.reads reads_openExistingDirectory hw fun _ hr => ⟨rfl, hr⟩

lemma acts_prepareDirectory (hcreate : R.allows (.file (.createRoot 0o700)))
    (hchmod : R.allows (.file (.setPathPermissions [] 0o700))) (hw : R.inv w.fs) :
    Acts R prepareDirectory (fun r w' => storeView w'.fs w.who.uid = .ok r) w := by
  refine (Keeps.attempt (o := .symlinkMetadata []) (R.look _ trivial) w hw).bind
    fun a w1 hw1 hb1 _ => ?_
  cases a with
  | ok m =>
    refine (acts_openExistingDirectory hw1).mono ?_
    rintro r _ - - ⟨rfl, hr⟩
    rwa [hb1.1] at hr
  | error e =>
    refine (Keeps.unavailable hcreate w1 hw1).bind fun _ w2 hw2 hb2 _ => ?_
    refine (Keeps.unavailable hchmod w2 hw2).bind fun _ w3 hw3 hb3 _ => ?_
    refine (acts_openExistingDirectory hw3).mono ?_
    rintro r _ - - ⟨rfl, hr⟩
    rwa [((hb1.trans hb2).trans hb3).1] at hr

lemma rejectRecoveryNames_ok {names : List Name} (h : rejectRecoveryNames names = .ok ()) :
    ∀ n ∈ names, recoveryDash.isPrefixOf n = false := by
  induction names with
  | nil => simp
  | cons m names ih =>
    unfold rejectRecoveryNames at h
    split at h
    · cases h
    split at h
    · cases h
    · next hm =>
      exact List.forall_mem_cons.mpr ⟨Bool.eq_false_iff.mpr hm, ih h⟩

lemma acts_rejectRecoveryState {d : Ref} (hw : R.inv w.fs)
    (hd : w.fs.directoryAt [] = .ok d) : Acts R rejectRecoveryState
      (fun _ w' => w = w' ∧ ∀ n r, w.fs.lookup d n = some r →
        recoveryDash.isPrefixOf n = false) w := by
  refine (acts_readDirectory hw hd).bind ?_
  rintro names _ - - ⟨rfl, -, hnames⟩
  refine Acts.reads (Reads.ofExcept _) hw fun _ hok => ⟨rfl, fun n r hr => ?_⟩
  exact rejectRecoveryNames_ok hok n ((hnames n).mpr ⟨r, hr⟩)

/-! ### The staging directory -/

/-- What creating the staging directory has done to the file system. -/
def stageEffects (fs : FileSystem Name) (who : Credentials) (root : Ref) (n : Name) :
    List (Effect Name) :=
  [.allocate (privateDirectory who), .change root [(n, some fs.next)], .chmod fs.next 0o700]

lemma acts_createPrivateDirectory {k : Artifact} (hw : Working fs0 root t w.fs) :
    Acts (area fs0 root t) (createPrivateDirectory (k.name t))
      (fun _ w' => w'.fs = w.fs.runAll (stageEffects w.fs w.who root (k.name t))) w := by
  have hcreate : Acts (area fs0 root t) (unavailable (.createDirectory [] (k.name t) 0o700))
      (fun _ w' => w'.fs = w.fs.runAll
        [.allocate (privateDirectory w.who), .change root [(k.name t, some w.fs.next)]]) w := by
    refine acts_unavailable hw (.inl ⟨rfl, k, rfl⟩ : OwnPlace _ _ _) fun order v es hm h => ?_
    obtain ⟨d, hd, -, rfl⟩ := meaning_createDirectory hm
    cases (directoryAt_nil hw.root_eq hw.root_kind).symm.trans hd
    rfl
  refine hcreate.bind fun _ w1 hw1 hb1 h1 => ?_
  refine acts_unavailable hw1 ⟨k, rfl⟩ fun order v es hm h => ?_
  obtain ⟨r, hr, rfl⟩ := meaning_setPathPermissions hm
  have hl : w1.fs.lookup root (k.name t) = some w.fs.next := by
    rw [h1]
    simp [runAll, lookup_change_one]
  rw [walk_one hw1.root_eq hw1.root_kind, hl] at hr
  cases hr
  rw [World.withFs_fs, h1]
  rfl

lemma prepared_stage {fs : FileSystem Name} {who : Credentials} (hb : fs.Bounded)
    (ht : Fresh fs t) (hroot : fs.root = some root) :
    Prepared root t fs.next 0 who ⟨root, t, .empty, false, false, false⟩ {}
      (fs.runAll (stageEffects fs who root (stageName t))) := by
  have hlt : root < fs.next := hb.root_lt root hroot
  have hne : root ≠ fs.next := Nat.ne_of_lt hlt
  refine ⟨rfl, rfl, hlt, ⟨fun _ => 0, ?_⟩, fun _ => ⟨?_, ?_⟩, fun h => ?_, fun h => ?_⟩
  · refine ⟨?_, Nat.lt_succ_self _, fun n f b hn => ?_, fun n _ => ?_⟩
    · simp [runAll, stageEffects, Effect.run, privateDirectory]
    · have : (({} : Written).file n) = none := by
        unfold Written.file
        split_ifs <;> rfl
      rw [this] at hn
      cases hn
    · simp [runAll, stageEffects, PinnedEntry, Effect.run, hne.symm]
  · simp [runAll, stageEffects, lookup_change_one]
  · have hgen := (ht root .generation).lookup
    simp [runAll, stageEffects, lookup_change_one, lookup_allocate, hgen]
  · cases h
  · cases h

/-- A transaction that has begun on the file system `fs1`. -/
structure Begun (root : Ref) (who : Credentials) (seed : ArtifactSeed) (fs1 : FileSystem Name)
    (tx : CatacombPairTransaction) (fs : FileSystem Name) : Prop where
  store : storeView fs1 who.uid = .ok root
  bounded : fs1.Bounded
  working : Working fs1 root (artifactToken seed) fs
  ready : Ready root (artifactToken seed) fs1.next 0 who tx {} fs

/-- The store directory while a transaction begins. -/
def Beginning (root : Ref) (fs0 fs : FileSystem Name) : Prop :=
  Touched root fs0 fs ∨ ∃ fs1 t, Touched root fs0 fs1 ∧ fs1.Bounded ∧ Working fs1 root t fs

lemma wp_beginTransaction (hroot : w.fs.root = some root) (hs : w.fs.rootSynced = true) :
    Prog.wp Host (fun w' _ => Beginning root w.fs w'.fs) beginTransaction.run
      (fun r w' => Beginning root w.fs w'.fs ∧ Beyond w w' ∧ ∀ tx, r = .ok tx →
        ∃ fs1 seed, Touched root w.fs fs1 ∧ Begun root w.who seed fs1 tx w'.fs) w := by
  unfold beginTransaction
  rw [Prog.wp_except_bind]
  refine Prog.wp_weaken (fun _ _ h => .inl h.1) ?_ (acts_prepareDirectory
    (R := preparing root hroot) (.inr (.inr (.inl rfl))) (.inr (.inr (.inr rfl))) (.inl rfl))
  rintro (e | d) w1 ⟨hw1, hb1, h1⟩
  · exact ⟨.inl hw1, hb1, nofun⟩
  have hstore : storeView w1.fs w.who.uid = .ok d := h1 d rfl
  obtain ⟨hd, hcheck⟩ := storeView_ok hstore
  have hroot1 : w1.fs.root = some root := (hw1 : Touched _ _ _).root_eq.trans hroot
  obtain ⟨hwalk, hk⟩ := directoryAt_ok hd
  rw [walk, hroot1] at hwalk
  cases hwalk
  dsimp only
  rw [Prog.wp_except_bind]
  refine Prog.wp_weaken (fun _ _ h => .inl h.1) ?_ (acts_rejectRecoveryState hw1 hd)
  rintro (e | u) w2 ⟨hw2, hb2, h2⟩
  · exact ⟨.inl hw2, hb1.trans hb2, nofun⟩
  obtain ⟨rfl, -⟩ := h2 u rfl
  rw [Prog.wp_except_bind, Prog.wp_except_lift]
  refine Prog.wp_perform (.inl hw1) fun c hfresh => ?_
  have hworking : Working w1.fs root (artifactToken c.seed) w1.fs :=
    Working.refl w1.bounded (hfresh rfl) hroot1 ((hw1 : Touched _ _ _).rootSynced.trans hs) hk
  change Prog.wp Host _ ((createPrivateDirectory (stageName (artifactToken c.seed)) >>= _ :
    StoreM CatacombPairTransaction).run) _ w1
  rw [Prog.wp_except_bind]
  refine Prog.wp_weaken (fun _ _ h => .inr ⟨_, _, hw1, w1.bounded, h.1⟩) ?_
    (acts_createPrivateDirectory hworking)
  rintro (e | u) w3 ⟨hw3, hb3, h3⟩
  · exact ⟨.inr ⟨_, _, hw1, w1.bounded, hw3⟩, hb1.trans hb3, nofun⟩
  refine ⟨.inr ⟨_, _, hw1, w1.bounded, hw3⟩, hb1.trans hb3, fun tx h => ?_⟩
  cases h
  refine ⟨w1.fs, c.seed, hw1, hstore, w1.bounded, hw3, ?_, rfl, rfl, ?_⟩
  · rw [h3 u rfl, hb1.1]
    exact prepared_stage w1.bounded (hfresh rfl) hroot1
  · constructor <;> intro b hb <;> cases hb

end T1Bridge.Store
