import T1Bridge.Store.Begin

/-! # Atomicity of a transaction

A whole transaction is `transact calls preserve`: it begins, makes its calls up to the first that
fails, promotes, and is dropped.  Wherever it is stopped, by the end of the process or by a crash
of the machine, `load` finds either the pair that was active before or the complete pair that
this transaction wrote. -/

namespace T1Bridge.Store

open FileSystem CatacombPairTransaction
open Prog (wp wp_bind wp_weaken)

/-! ### Whole transactions -/

/-- The calls a transaction takes before it is promoted. -/
inductive TransactionCall where
  | reserveRecovery
  | writeMetadata (metadata : List UInt8)
  | writeUser (user : List UInt8)
  | writeMaster (master : List UInt8)

def TransactionCall.run : TransactionCall → TransactionM Unit
  | reserveRecovery => CatacombPairTransaction.reserveRecovery
  | writeMetadata metadata => CatacombPairTransaction.writeMetadata metadata
  | writeUser user => CatacombPairTransaction.writeUser user
  | writeMaster master => CatacombPairTransaction.writeMaster master

def makeCalls : List TransactionCall → TransactionM Unit
  | [] => pure ()
  | call :: calls => do
    call.run
    makeCalls calls

def transact (calls : List TransactionCall) (preserve : Bool) : StoreM Unit := do
  let tx ← beginTransaction
  tx.owned do
    makeCalls calls
    promoteInner (pure ()) preserve

/-- What a call adds to what was written. -/
def Written.after (c : Written) : TransactionCall → Written
  | .reserveRecovery => c
  | .writeMetadata metadata => { c with metadata := some metadata }
  | .writeUser user => { c with user := some user }
  | .writeMaster master => { c with master := some master }

/-! ### The calls -/

variable {tx : CatacombPairTransaction} {fs0 : FileSystem Name} {old : CatacombPair}
  {root g m : Ref} {who : Credentials} {t : Name}

section

variable {c : Written} {w : World}

lemma acts_call (hw : Working fs0 root t w.fs) (hp : Ready root t g m w.who tx c w.fs)
    (call : TransactionCall) : MethodActs (area fs0 root t) call.run tx
      (fun _ tx' w' => ∃ m', Ready root t g m' w.who tx' (c.after call) w'.fs) w := by
  cases call with
  | reserveRecovery =>
    exact (acts_reserveRecovery hw hp).mono fun _ _ _ _ _ _ h => h.2
  | writeMetadata metadata =>
    exact (acts_writeMetadata hw hp metadata).mono fun _ _ _ _ _ _ h => ⟨m, h.2⟩
  | writeUser user =>
    exact (acts_writeUser hw hp user).mono fun _ _ _ _ _ _ h => ⟨m, h.2⟩
  | writeMaster master =>
    exact (acts_writeMaster hw hp master).mono fun _ _ _ _ _ _ h => ⟨m, h.2⟩

lemma acts_makeCalls (hw : Working fs0 root t w.fs) (hp : Ready root t g m w.who tx c w.fs)
    (calls : List TransactionCall) : MethodActs (area fs0 root t) (makeCalls calls) tx
      (fun _ tx' w' => ∃ m', Ready root t g m' w.who tx' (calls.foldl Written.after c) w'.fs) w := by
  induction calls generalizing m tx c w with
  | nil => exact MethodActs.pure hw ⟨m, hp⟩
  | cons call calls ih =>
    refine (acts_call hw hp call).bind ?_
    rintro _ tx1 w1 hw1 hb1 - ⟨m', hp1⟩
    rw [← hb1.1] at hp1
    refine (ih hw1 hp1).mono ?_
    rintro _ tx2 w2 - - - ⟨m'', hp2⟩
    rw [hb1.1] at hp2
    exact ⟨m'', hp2⟩

end

/-! ### What a stopped process or machine leaves -/

/-- Whatever is left, `load` finds the pair. -/
def Loads (uid : ℕ) (pair : CatacombPair) (fs : FileSystem Name) : Prop :=
  ∀ img, Left fs img → loadView img uid = .ok pair

/-- Whatever is left, `load` finds the old pair or one with all that was written. -/
def OldOrNew (uid : ℕ) (old : CatacombPair) (c : Written) (fs : FileSystem Name) : Prop :=
  ∀ img, Left fs img →
    loadView img uid = .ok old ∨ ∃ new : CatacombPair, new.written = c ∧ loadView img uid = .ok new

section Loads

variable {uid : ℕ} {fs : FileSystem Name}

lemma Loads.oldOrNew (h : Loads uid old fs) (c : Written) : OldOrNew uid old c fs :=
  fun img himg => .inl (h img himg)

lemma root_of_loadView {pair : CatacombPair} (h : loadView fs uid = .ok pair) :
    ∃ root, fs.root = some root ∧ checkedDirectory fs uid root = .ok () := by
  obtain ⟨root, hstore, -⟩ := Except.of_bind_ok h
  obtain ⟨hd, hcheck⟩ := storeView_ok hstore
  have hwalk := (directoryAt_ok hd).1
  cases hr : fs.root with
  | none =>
    rw [walk, hr] at hwalk
    cases hwalk
  | some r =>
    rw [walk, hr] at hwalk
    cases hwalk
    exact ⟨_, rfl, hcheck⟩

/-- A store that no crash can take away was synchronised into its parent. -/
lemma Loads.rootSynced (h : Loads uid old fs) : fs.rootSynced = true := by
  by_contra hs
  have hcrash : Crash fs { fs.settle with root := none } :=
    { crash_settle fs with root := Or.inr ⟨by simpa using hs, rfl⟩ }
  obtain ⟨root, hroot, -⟩ := root_of_loadView (h _ (.inr hcrash))
  cases hroot

lemma alike_chmod (hok : checkedDirectory fs uid root = .ok ()) :
    Alike uid fs ((Effect.chmod root 0o700).run fs) := by
  have hk : fs.kind root = .directory := (checkedDirectory_ok.mp hok).1
  have hattr : ∀ r, r ≠ root →
      ((Effect.chmod root 0o700).run fs).attributes r = fs.attributes r := by
    intro r hr
    rw [attributes_chmod, if_neg hr]
  have hkind : ∀ r, ((Effect.chmod root 0o700).run fs).kind r = fs.kind r :=
    fun r => kind_run nofun
  refine ⟨rfl, fun _ _ => trivial, fun r _ => hkind r, fun _ _ _ _ => rfl,
    fun _ _ _ _ _ _ => trivial, fun _ _ => rfl, fun r _ => ?_, fun r _ => ?_⟩
  · by_cases hr : r = root
    · subst hr
      rw [hok, checkedDirectory_ok, hkind, attributes_chmod, if_pos rfl]
      obtain ⟨-, -, ho⟩ := checkedDirectory_ok.mp hok
      exact ⟨hk, (by decide : (0o700 : ℕ) &&& 0o777 = 0o700), ho⟩
    · unfold checkedDirectory
      rw [hkind, hattr r hr]
  · unfold checkedFile validateFileIdentity
    rw [hkind]
    by_cases hr : r = root
    · subst hr
      simp [hk]
    · rw [hattr r hr]
      rfl

lemma Loads.touched (h : Loads uid old fs0) (hroot : fs0.root = some root)
    (ht : Touched root fs0 fs) : Loads uid old fs := by
  rcases ht with rfl | rfl
  · exact h
  have hroot_ok : ∀ img, Left fs0 img → checkedDirectory img uid root = .ok () := by
    intro img himg
    obtain ⟨r, hr, hok⟩ := root_of_loadView (h img himg)
    have himg_root : img.root = some root ∨ img.root = none := by
      rcases himg with rfl | hc
      · exact .inl hroot
      rcases hc.root with hr' | ⟨-, hr'⟩
      · exact .inl (hr'.trans hroot)
      · exact .inr hr'
    rcases himg_root with hr' | hr'
    · cases hr.symm.trans hr'
      exact hok
    · cases hr.symm.trans hr'
  rintro img (rfl | hc)
  · rw [(alike_chmod (hroot_ok fs0 (.inl rfl))).loadView]
    exact h fs0 (.inl rfl)
  · obtain ⟨img0, hc0, rfl⟩ := hc.shadow
    rw [(alike_chmod (hroot_ok img0 (.inr hc0))).loadView]
    exact h img0 (.inr hc0)

/-- Beside a transaction the old pair loads. -/
lemma Loads.working (h : Loads uid old fs0) (hb0 : fs0.Bounded) (hb : fs.Bounded)
    (hw : Working fs0 root t fs) : Loads uid old fs := by
  rintro img (rfl | hc)
  · exact agree_loadView_ok hw.beside.1 hb0 hb (h fs0 (.inl rfl))
  · obtain ⟨img0, hc0, hagree⟩ := hw.beside.2 img hc
    exact agree_loadView_ok hagree (hc0.bounded hb0) (hc.bounded hb) (h img0 (.inr hc0))

lemma Loads.replaced {seed : ArtifactSeed} {new : CatacombPair}
    (h : Loads who.uid old fs0) (hb0 : fs0.Bounded) (hb : fs.Bounded)
    (hr : Replaced fs0 root (artifactToken seed) who new fs) (hv : new.written.Valid) :
    OldOrNew who.uid old new.written fs := by
  rintro img (rfl | hc)
  · exact .inr ⟨new, rfl, hr.seen.loadView hb hv⟩
  rcases hr.left img hc with ⟨img0, hc0, hagree⟩ | hnew
  · exact .inl (agree_loadView_ok hagree (hc0.bounded hb0) (hc.bounded hb) (h img0 (.inr hc0)))
  · exact .inr ⟨new, rfl, hnew.loadView (hc.bounded hb) hv⟩

end Loads

/-! ### A whole run -/

section

variable {seed : ArtifactSeed} {c : Written} {w : World}

lemma Ready.pair {fs : FileSystem Name}
    (hp : Ready root t g m who tx c fs) (h : tx.state = .pairDurable) :
    ∃ pair : CatacombPair, pair.written = c := by
  have hreached := hp.reached
  rw [h] at hreached
  obtain ⟨user, huser⟩ := Option.isSome_iff_exists.mp hreached.1
  obtain ⟨master, hmaster⟩ := Option.isSome_iff_exists.mp hreached.2
  refine ⟨⟨master, user, c.metadata⟩, ?_⟩
  rw [CatacombPair.written, ← huser, ← hmaster]

lemma wp_finish (hold : Loads w.who.uid old fs0) (hb0 : fs0.Bounded)
    (hok : checkedDirectory fs0 w.who.uid root = .ok ())
    (hw : Working fs0 root (artifactToken seed) w.fs)
    (hp : Ready root (artifactToken seed) g m w.who tx c w.fs) (preserve : Bool) :
    wp Host (fun w' _ => OldOrNew w.who.uid old c w'.fs)
      ((promoteInner (pure ()) preserve).run.run tx >>= fun r => r.2.drop)
      (fun _ w' => OldOrNew w.who.uid old c w'.fs) w := by
  have working : ∀ w' : World, Working fs0 root (artifactToken seed) w'.fs →
      OldOrNew w.who.uid old c w'.fs :=
    fun w' hw' => (hold.working hb0 w'.bounded hw').oldOrNew c
  rw [wp_bind]
  by_cases hstate : tx.state = .pairDurable
  · obtain ⟨new, rfl⟩ := hp.pair hstate
    have replaced : ∀ w' : World, Replaced fs0 root (artifactToken seed) w.who new w'.fs →
        OldOrNew w.who.uid old new.written w'.fs :=
      fun w' hr' => hold.replaced hb0 w'.bounded hr' hp.valid
    refine wp_weaken ?_ ?_ (wp_promoteInner hw hok hp.prepared preserve)
    · rintro w' - (h | h)
      · exact working w' h
      · exact replaced w' h
    · rintro r w1 ⟨htoken, hw1 | ⟨hmarker, hr1⟩⟩
      · refine wp_weaken (fun w' _ h => working w' h.1) ?_ (working_drop hw1 r.2 htoken)
        exact fun _ w' h => working w' h.1
      · refine wp_weaken (fun w' _ h => replaced w' h.1) ?_ (wp_drop_renamed hr1 htoken hmarker)
        exact fun _ w' h => replaced w' h
  · have hrefused : (promoteInner (pure ()) preserve).run.run tx =
        pure (.error .invalidTransactionState, tx) := by
      change (if _ then _ else _ : TransactionM Unit).run.run tx = _
      rw [if_pos (by simp [hstate])]
      rfl
    rw [hrefused, Prog.wp_pure]
    refine wp_weaken (fun w' _ h => working w' h.1) ?_ (working_drop hw tx hp.prepared.token)
    exact fun _ w' h => working w' h.1

lemma wp_transact (hold : Loads w.who.uid old w.fs) (calls : List TransactionCall)
    (preserve : Bool) :
    wp Host (fun w' _ => OldOrNew w.who.uid old (calls.foldl Written.after {}) w'.fs)
      (transact calls preserve).run
      (fun _ w' => OldOrNew w.who.uid old (calls.foldl Written.after {}) w'.fs) w := by
  obtain ⟨root, hroot, -⟩ := root_of_loadView (hold w.fs (.inl rfl))
  have beginning : ∀ w' : World, Beginning root w.fs w'.fs →
      OldOrNew w.who.uid old (calls.foldl Written.after {}) w'.fs := by
    rintro w' (h | ⟨fs1, t, ht, hb1, hw'⟩)
    · exact (hold.touched hroot h).oldOrNew _
    · exact ((hold.touched hroot ht).working hb1 w'.bounded hw').oldOrNew _
  unfold transact
  rw [Prog.wp_except_bind]
  refine wp_weaken (fun w' _ h => beginning w' h) ?_ (wp_beginTransaction hroot hold.rootSynced)
  rintro (e | tx) w1 ⟨hw1, hb1, h1⟩
  · exact beginning w1 hw1
  obtain ⟨fs1, seed, ht, hbegun⟩ := h1 tx rfl
  have hold1 : Loads w1.who.uid old fs1 := by
    rw [hb1.1]
    exact hold.touched hroot ht
  have working : ∀ w' : World, Working fs1 root (artifactToken seed) w'.fs →
      OldOrNew w.who.uid old (calls.foldl Written.after {}) w'.fs := by
    intro w' hw'
    rw [← hb1.1]
    exact (hold1.working hbegun.bounded w'.bounded hw').oldOrNew _
  have hready := hbegun.ready
  rw [← hb1.1] at hready
  change wp Host _ ((makeCalls calls >>= fun _ => promoteInner (pure ()) preserve).run.run tx
    >>= fun r => r.2.drop >>= fun _ => pure r.1) _ w1
  rw [wp_bind, Prog.wp_method_bind]
  refine wp_weaken (fun w' _ h => working w' h.1) ?_ (acts_makeCalls hbegun.working hready calls)
  rintro ⟨e | u, tx2⟩ w2 ⟨hw2, hb2, hfollows, h2⟩
  · dsimp only
    rw [wp_bind]
    have htoken : tx2.token = artifactToken seed :=
      hfollows.token.trans hready.prepared.token
    refine wp_weaken (fun w' _ h => working w' h.1) ?_ (working_drop hw2 tx2 htoken)
    exact fun _ w' h => working w' h.1
  · obtain ⟨m', hready2⟩ := h2 u rfl
    have hok : checkedDirectory fs1 w2.who.uid root = .ok () := by
      rw [hb2.1, hb1.1]
      exact (storeView_ok hbegun.store).2
    rw [← hb2.1] at hready2 hold1
    have hfinish := wp_finish hold1 hbegun.bounded hok hw2 hready2 preserve
    rw [wp_bind, hb2.1, hb1.1] at hfinish
    refine Prog.wp_mono (fun r w3 h => ?_) hfinish
    rw [wp_bind]
    exact h

end

/-- **Atomicity.**  Where a transaction is stopped, `load` on what is left returns the pair that
was active before, or all that this transaction wrote and nothing else; a `load` whose own calls
fail returns nothing else either. -/
theorem transact_atomic {w w' v : World} {old : CatacombPair} (hold : Loads w.who.uid old w.fs)
    {calls : List TransactionCall} {preserve : Bool} {rest : HostProg (Outcome Unit)}
    (hrun : Prog.Steps Host (transact calls preserve).run w rest w') (hleft : Left w'.fs v.fs)
    (hwho : v.who = w.who) :
    (v.reliable = true → ∀ c, ∃ pair, (Prog.eval Host c load.run v).1 = .ok pair ∧
      (pair = old ∨ pair.written = calls.foldl Written.after {})) ∧
    ∀ pair v', Prog.Steps Host load.run v (.ret (.ok pair)) v' →
      pair = old ∨ pair.written = calls.foldl Written.after {} := by
  have hatomic : OldOrNew w.who.uid old (calls.foldl Written.after {}) w'.fs :=
    hrun.invariant_of_wp (wp_transact hold calls preserve)
  have hview := hatomic v.fs hleft
  constructor
  · intro hv c
    rw [load_eval hv, hwho]
    rcases hview with h | ⟨new, hnew, h⟩
    · exact ⟨old, h, .inl rfl⟩
    · exact ⟨new, h, .inr hnew⟩
  · intro pair v' hload
    have hpair := load_steps hload
    rw [hwho] at hpair
    rcases hview with h | ⟨new, hnew, h⟩
    · exact .inl (Except.ok.inj (hpair.symm.trans h))
    · exact .inr ((Except.ok.inj (hpair.symm.trans h)) ▸ hnew)

/-! ### A store with one pair -/

/-- A store directory whose marker names the generation of `t`, with this pair. -/
def onePair (who : Credentials) (t : Name) (master user : List UInt8) : List (Node Name) :=
  [⟨privateDirectory who, [], [(activeMarker, 1), (generationName t, 2)]⟩,
    ⟨privateFile who, generationName t ++ [10], []⟩,
    ⟨privateDirectory who, [], [(masterFile, 3), (userFile, 4)]⟩,
    ⟨privateFile who, master, []⟩,
    ⟨privateFile who, user, []⟩]

lemma bounded_onePair (who : Credentials) (t : Name) (master user : List UInt8) :
    (ofNodes (onePair who t master user)).Bounded := by
  refine bounded_ofNodes ?_
  simp only [onePair, List.mem_cons, List.not_mem_nil, or_false]
  rintro x (rfl | rfl | rfl | rfl | rfl) e he
  all_goals simp at he
  all_goals rcases he with rfl | rfl <;> simp

/-- The world of a process of the super user with such a store. -/
def onePairWorld : World where
  fs := ofNodes (onePair ⟨0, 0⟩ [49, 45, 50, 45, 51] [1] [2])
  bounded := bounded_onePair _ _ _ _
  who := ⟨0, 0⟩
  reliable := true
  log := []

/-- Calls succeed, the sensor does not answer, and this is the seed of a new token. -/
def seedChoice : Choice where
  fault := none
  order := []
  seed := ⟨4, 5, 6, by decide, by decide, by decide⟩
  reply := .error ⟨none⟩
  enrollmentEvent := .error ⟨0⟩
  matchEvent := .error ⟨0⟩
  wait := .ok ()
  mesaCompleted := false

lemma loads_onePair : Loads 0 ⟨[1], [2], none⟩ onePairWorld.fs := by
  have hload : loadView onePairWorld.fs 0 = .ok ⟨[1], [2], none⟩ := by decide +kernel
  rintro img (rfl | hc)
  · exact hload
  · rw [(settled_ofNodes _).crash_eq hc]
    exact hload

/-- The store that a second pair was promoted in, as it is on the disk afterwards. -/
def secondPairWorld : World :=
  let after := (Prog.advance TestedHost (List.replicate 80 seedChoice)
    (transact [.reserveRecovery, .writeUser [3], .writeMaster [4]] true).run onePairWorld).2
  after.withFs after.fs.settle ((crash_settle after.fs).bounded after.bounded)

theorem transact_atomic_secondPair : loadView secondPairWorld.fs 0 = .ok ⟨[4], [3], none⟩ ∧
    ∃ pair, (Prog.eval Host seedChoice load.run secondPairWorld).1 = .ok pair ∧
      (pair = ⟨[1], [2], none⟩ ∨ pair.written = ⟨none, some [3], some [4]⟩) :=
  ⟨by decide +kernel, (transact_atomic (v := secondPairWorld) loads_onePair
    (steps_advance (List.replicate 80 seedChoice)
      (transact [.reserveRecovery, .writeUser [3], .writeMaster [4]] true).run onePairWorld)
    (.inr (crash_settle _)) (by decide +kernel)).1 (by decide +kernel) seedChoice⟩

end T1Bridge.Store
