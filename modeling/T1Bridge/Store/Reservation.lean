import T1Bridge.Store.LegacyRecovery
import T1Bridge.Store.Recovery
import T1Bridge.Store.Reserve

/-! # Reserved generations

`Kept` says that the reservation of a token and its generation are on the disk for good, with
the files the generation has.  The operations that spare the token keep that (`Kept.exec`), and
every function of the store asks only such operations, with two exceptions: the transaction of
the token itself and `recover_with_validator` remove the reservation once the marker on the disk
names the generation (`Selected`). -/

namespace T1Bridge.Store

open FileSystem CatacombPairTransaction
open Prog (wp wp_bind wp_except_bind wp_method_bind wp_mono wp_seq wp_weaken)

/-- The token `t` is reserved by `m`, and its generation `g` has at least `files`. -/
structure Kept (root : Ref) (t : Name) (g m : Ref) (files : Name → Option Ref)
    (fs : FileSystem Name) : Prop where
  bounded : fs.Bounded
  tree : fs.Tree
  root_eq : fs.root = some root
  root_synced : fs.rootSynced = true
  root_kind : fs.kind root = .directory
  recovery : fs.PinnedEntry root (recoveryName t) (some m)
  generation : fs.PinnedEntry root (generationName t) (some g)
  member : fs.kind g = .directory → g ≠ root → ∀ n f, files n = some f → fs.PinnedEntry g n (some f)

/-- The marker on the disk names the generation of `t`. -/
def Selected (root : Ref) (t : Name) (fs : FileSystem Name) : Prop :=
  ∃ k, fs.PinnedEntry root activeMarker (some k) ∧ fs.bytes k = generationName t ++ [10]

/-- Operations that remove neither the reservation of `t` nor anything of its generation. -/
def Spares (t : Name) : HostOp → Prop
  | .file (.removeFile parent n) | .file (.removeDirectory parent n) =>
    (parent = [] ∨ ∃ x, parent = [x] ∧ x ≠ generationName t) ∧
      n ≠ recoveryName t ∧ n ≠ generationName t
  | .file (.rename parent n n') => parent = [] ∧ n ≠ recoveryName t ∧ n ≠ generationName t ∧
      n' ≠ recoveryName t ∧ n' ≠ generationName t
  | _ => True

variable {files : Name → Option Ref} {root g m : Ref} {t : Name} {tx : CatacombPairTransaction}
  {w : World} {es : List (Effect Name)} {u : Name} {who : Credentials} {order : List Name}
  {n : Name}

namespace Kept

variable {fs : FileSystem Name}

lemma root_lt (h : Kept root t g m files fs) : root < fs.next := h.bounded.root_lt root h.root_eq

variable {o : FileOp Name}

/-- In the store directory a sparing call takes neither name away. -/
lemma not_takes_root (ho : Spares t (.file o))
    (hn : n = recoveryName t ∨ n = generationName t) : ¬ fs.Takes root n o := by
  cases o with
  | removeFile parent n' | removeDirectory parent n' =>
    rintro ⟨-, rfl⟩
    rcases hn with rfl | rfl
    · exact ho.2.1 rfl
    · exact ho.2.2 rfl
  | rename parent n1 n2 =>
    obtain ⟨-, h1, h2, h3, h4⟩ := ho
    rintro ⟨-, rfl | rfl⟩ <;> rcases hn with hn | hn
    · exact h1 hn
    · exact h2 hn
    · exact h3 hn
    · exact h4 hn
  | _ => exact id

/-- A sparing call takes no name away in the generation: no other path leads there. -/
lemma not_takes_generation (h : Kept root t g m files fs) (hk : fs.kind g = .directory)
    (hg : g ≠ root) (ho : Spares t (.file o)) (n : Name) : ¬ fs.Takes g n o := by
  have hpath : ∀ parent, (parent = [] ∨ ∃ x, parent = [x] ∧ x ≠ generationName t) →
      fs.directoryAt parent ≠ .ok g := by
    rintro parent (rfl | ⟨x, rfl, hx⟩) hd
    · rw [directoryAt_nil h.root_eq h.root_kind] at hd
      cases hd
      exact hg rfl
    have hwalk := (directoryAt_ok hd).1
    rw [walk_one h.root_eq h.root_kind] at hwalk
    split at hwalk
    · next hl =>
      cases hwalk
      exact hx (h.tree g hk root x root (generationName t) hl h.generation.lookup).2
    · cases hwalk
  cases o with
  | removeFile parent n' | removeDirectory parent n' => exact fun ht => hpath parent ho.1 ht.1
  | rename parent n1 n2 => exact fun ht => hpath parent (.inl ho.1) ht.1
  | _ => exact id

lemma run_meaning (h : Kept root t g m files fs) (ho : Spares t (.file o))
    {v : o.Value}
    (hm : fs.meaning who order o = .ok (v, es)) : Kept root t g m files (fs.runAll es) := by
  have hroot := meaning_root h.root_eq hm
  have hkind : ∀ r < fs.next, (fs.runAll es).kind r = fs.kind r := fun r hr => kind_runAll hr es
  have hkeeps := meaning_keeps hm h.bounded
  have hg : g < fs.next := (h.bounded.lookup_lt h.generation.lookup).2
  refine ⟨hkeeps.1, hkeeps.2 h.tree, hroot.1, hroot.2.trans h.root_synced,
    (hkind root h.root_lt).trans h.root_kind, ?_, ?_, fun hk hne n f hf => ?_⟩
  · exact meaning_pinned h.recovery h.root_lt hm (not_takes_root ho (.inl rfl))
  · exact meaning_pinned h.generation h.root_lt hm (not_takes_root ho (.inr rfl))
  · rw [hkind g hg] at hk
    exact meaning_pinned (h.member hk hne n f hf) hg hm (h.not_takes_generation hk hne ho n)

lemma exec (h : Kept root t g m files w.fs) {op : HostOp} (ho : Spares t op)
    (c : Choice) : Kept root t g m files (Host.exec c w op).2.fs := by
  refine exec_keeps h ?_ ?_ c
  · rintro o rfl order v es hm
    exact h.run_meaning ho hm
  · rintro r b b' rfl
    exact ⟨h.bounded.write r b', (keeps_write r b' h.bounded).2 h.tree, h.root_eq,
      h.root_synced, h.root_kind, h.recovery, h.generation, h.member⟩

/-- Neither a crash nor the end of the process changes it. -/
lemma crash {img : FileSystem Name} (h : Kept root t g m files fs) (hc : Crash fs img)
    (ht : img.Tree) : Kept root t g m files img where
  bounded := hc.bounded h.bounded
  tree := ht
  root_eq := (hc.root_eq h.root_synced).trans h.root_eq
  root_synced := hc.rootSynced
  root_kind := by rw [hc.kind, h.root_kind]
  recovery := h.recovery.crash hc
  generation := h.generation.crash hc
  member hk hne n f hf := by
    rw [hc.kind] at hk
    exact (h.member hk hne n f hf).crash hc

end Kept

/-- The store while `t` is reserved. -/
@[reducible] def reserved (root : Ref) (t : Name) (g m : Ref) (files : Name → Option Ref) :
    Regime where
  inv := Kept root t g m files
  allows := Spares t
  look op h := by
    cases op with
    | file o => cases o <;> trivial
    | _ => trivial
  stable _ _ c h ho := h.exec ho c

/-! ### Functions that spare a reserved token -/

section

lemma isPairFile_ne (hn : isPairFile n = true) (k : Artifact) (t : Name) : n ≠ k.name t := by
  rintro rfl
  simp [isPairFile] at hn

lemma keeps_removeOther {k : Artifact} (hne : k.name u ≠ generationName t) (hrec : k ≠ .recovery) :
    Keeps (reserved root t g m files) (removePrivateGeneration (k.name u)) := by
  refine keeps_removePrivateGeneration (fun n hn => ?_) ?_
  · exact ⟨.inr ⟨_, rfl, hne⟩, isPairFile_ne hn _ _, isPairFile_ne hn _ _⟩
  · refine ⟨.inl rfl, ?_, hne⟩
    simp [hrec]

lemma keeps_removeTemporary (u : Name) :
    Keeps (reserved root t g m files) (removePrivateFile [] (markerTemporaryName u)) :=
  keeps_removePrivateFile ⟨.inl rfl, by simp, by simp⟩

/-- No transaction begins while a token is reserved. -/
lemma acts_beginTransaction (hw : Kept root t g m files w.fs) :
    Acts (reserved root t g m files) beginTransaction (fun _ _ => False) w := by
  refine (acts_prepareDirectory trivial trivial hw).bind fun _ w1 hw1 _ _ => ?_
  refine (acts_rejectRecoveryState hw1
    (directoryAt_nil (Kept.root_eq hw1) (Kept.root_kind hw1))).bind ?_
  rintro _ _ - - ⟨rfl, hclear⟩
  -- the listing has the reservation
  have hprefix := hclear _ m (Kept.recovery hw1).lookup
  cases hprefix

lemma rejectRecoveryNames_pending {names : List Name} (htext : ∀ n ∈ names, isText n = true)
    (h : ∃ n ∈ names, recoveryDash.isPrefixOf n = true) :
    rejectRecoveryNames names = .error .pendingExport := by
  induction names with
  | nil =>
    obtain ⟨n, hn, -⟩ := h
    cases hn
  | cons n names ih =>
    simp only [rejectRecoveryNames, htext n (by simp), Bool.not_true, Bool.false_eq_true, if_false]
    split
    · rfl
    next hprefix =>
    obtain ⟨n', hn', hp⟩ := h
    rcases List.mem_cons.mp hn' with rfl | hn'
    · exact absurd hp hprefix
    · exact ih (fun m hm => htext m (by simp [hm])) ⟨n', hn', hp⟩

/-- Without failing calls, a private store directory with readable names reports a pending
export. -/
def Pending (root : Ref) (e : CatacombStoreError) (w : World) : Prop :=
  w.reliable = true → storeView w.fs w.who.uid = .ok root →
    (∀ n r, w.fs.lookup root n = some r → isText n = true) → e = .pendingExport

lemma wp_beginTransaction_reserved (hw : Kept root t g m files w.fs) :
    wp Host (reserved root t g m files).Inside beginTransaction.run
      (fun r w' => Kept root t g m files w'.fs ∧ ∃ e, r = .error e ∧ Pending root e w') w := by
  cases hr : w.reliable with
  | false =>
    refine wp_mono ?_ (acts_beginTransaction hw)
    rintro (e | tx) w' ⟨hw', hb, h⟩
    · refine ⟨hw', e, rfl, fun hrel => ?_⟩
      rw [hb.2, hr] at hrel
      cases hrel
    · exact (h tx rfl).elim
  | true =>
    have hno : w.reliable ≠ false := by simp [hr]
    have hlook : ∀ op : HostOp, op.IsLook → (reserved root t g m files).Inside w op :=
      fun op hop => ⟨hw, (reserved root t g m files).look op hop⟩
    have hwalk : w.fs.walk [] = .ok root := by
      unfold walk
      rw [hw.root_eq]
      rfl
    unfold beginTransaction prepareDirectory
    rw [wp_except_bind, wp_except_bind, attempt, Prog.wp_except_lift]
    refine wp_look (looks_symlinkMetadata []) (hlook _ trivial) ?_ fun h => absurd h hno
    rw [hwalk]
    refine reads_openExistingDirectory.wp hlook ?_ fun h => absurd h hno
    cases hstore : storeView w.fs w.who.uid with
    | error e =>
      refine ⟨hw, e, rfl, fun _ h => ?_⟩
      rw [hstore] at h
      cases h
    | ok directory =>
      unfold rejectRecoveryState
      dsimp only
      rw [wp_except_bind, wp_except_bind]
      refine wp_readDirectory (hlook _ trivial) (directoryAt_nil hw.root_eq hw.root_kind)
        (fun names _ hnames => ?_) fun h => absurd h hno
      have hlisted : recoveryName t ∈ names := (hnames _).mpr ⟨m, hw.recovery.lookup⟩
      change wp Host _ (pure (rejectRecoveryNames names) >>= _) _ w
      cases hreject : rejectRecoveryNames names with
      | ok u =>
        have := rejectRecoveryNames_ok hreject _ hlisted
        cases this
      | error e =>
        refine ⟨hw, e, rfl, fun _ _ htext => ?_⟩
        have hpending := rejectRecoveryNames_pending
          (fun n hn => htext n _ ((hnames n).mp hn).choose_spec)
          ⟨_, hlisted, List.isPrefixOf_iff_prefix.mpr (List.prefix_append _ _)⟩
        exact Except.error.inj (hreject.symm.trans hpending)

lemma keeps_commit (user master : List UInt8) :
    Keeps (reserved root t g m files) (commit user master) := by
  refine (Keeps.ofExcept _).bind fun _ => (Keeps.ofExcept _).bind fun _ => ?_
  exact fun w hw => (acts_beginTransaction hw).bind fun _ _ _ _ h => h.elim

lemma keeps_isEmptyForFirstOwner : Keeps (reserved root t g m files) isEmptyForFirstOwner := by
  intro w hw
  refine (Keeps.reads reads_openExistingDirectory w hw).caught.bind fun r w1 hw1 _ _ => ?_
  cases r with
  | ok _ =>
    refine Keeps.bind (Keeps.unavailable (o := .readDirectory []) trivial) (fun names => ?_) w1 hw1
    exact Keeps.ofExcept _
  | error e =>
    cases e <;> first
      | exact Acts.pure hw1 trivial
      | exact Acts.throw hw1 _

/-- The transaction does not undo the reservation of `t`: it is another one, or it made it. -/
def Loyal (t : Name) (tx : CatacombPairTransaction) : Prop :=
  tx.token = t → tx.generationRenamed = true ∧ tx.recoveryReserved = true

lemma Loyal.follows {tx' : CatacombPairTransaction} (h : Loyal t tx) (hf : Follows tx tx') :
    Loyal t tx' := by
  intro ht
  obtain ⟨hr, hres⟩ := h (hf.token ▸ ht)
  exact ⟨hf.generationRenamed hr, hf.recoveryReserved hres⟩

lemma files_reserved : (reserved root t g m files).Files :=
  ⟨fun _ _ _ => trivial, fun _ => ⟨fun _ => trivial, fun _ => trivial, trivial⟩⟩

/-- Reserving: the rename is of another token, for the transaction of `t` has made its own. -/
lemma acts_reserveRecovery_reserved (hw : Kept root t g m files w.fs) (hl : Loyal t tx) :
    MethodActs (reserved root t g m files) reserveRecovery tx (fun _ _ _ => True) w := by
  have hR : tx.recoveryReserved = false → (reserved root t g m files).Reserves root tx.token := by
    intro hres
    have hne : tx.token ≠ t := by
      intro ht
      rw [(hl ht).2] at hres
      cases hres
    exact ⟨fun _ h => h.root_eq, ⟨rfl, by simp, by simp, by simp, by simpa using hne⟩, trivial,
      fun _ _ => trivial, fun _ => trivial⟩
  exact (acts_reserveRecovery_of hw hR).mono fun _ _ _ _ _ _ _ => trivial

lemma wp_drop_reserved (hw : Kept root t g m files w.fs) (hl : Loyal t tx) :
    wp Host (reserved root t g m files).Inside tx.drop
      (fun _ w' => Kept root t g m files w'.fs) w := by
  have hne : tx.recoveryReserved ≠ true → tx.token ≠ t := fun hres ht => hres (hl ht).2
  refine wp_mono (fun _ _ h => h.1) (wp_drop hw ⟨.inl rfl, by simp, by simp⟩ ?_ ?_)
  · exact fun _ => keeps_removeOther (k := .stage) (by simp) (by simp)
  · exact fun hres _ => keeps_removeOther (k := .generation) (by simpa using hne hres) (by simp)

end

/-! ### Promotion -/

/-- Operations that leave a marker on the disk alone. -/
def LeavesMarker : HostOp → Prop
  | .file (.removeFile _ n) | .file (.removeDirectory _ n) => n ≠ activeMarker
  | .file (.sync _) => True
  | .file o => (HostOp.file o).IsLook
  | _ => True

/-- The marker on the disk names the generation of `t`, and stays. -/
structure Settling (root : Ref) (t : Name) (fs : FileSystem Name) : Prop where
  bounded : fs.Bounded
  selected : Selected root t fs

lemma Settling.run {fs : FileSystem Name} (h : Settling root t fs)
    {o : FileOp Name} (ho : LeavesMarker (.file o))
    {v : o.Value} (hm : fs.meaning who order o = .ok (v, es)) :
    Settling root t (fs.runAll es) := by
  obtain ⟨k, hk, hbytes⟩ := h.selected
  have hroot : root < fs.next := (h.bounded.durable_lt root _ k hk.2).1
  have hbytes' : (fs.runAll es).bytes k = fs.bytes k := by
    cases o with
    | removeFile | removeDirectory =>
      obtain ⟨_, _, -, -, rfl⟩ :=
        meaning_remove (by first | exact .inl rfl | exact .inr rfl) hm
      rfl
    | sync =>
      cases hm
      exact bytes_sync
    | openDirectory | openFile | metadata | symlinkMetadata | read | readDirectory =>
      rw [meaning_look (by exact ho) hm]
      rfl
    | _ => exact ho.elim
  refine ⟨(meaning_keeps hm h.bounded).1, k, ?_, hbytes'.trans hbytes⟩
  refine meaning_pinned hk hroot hm ?_
  cases o with
  | removeFile | removeDirectory => exact fun ht => ho ht.2
  | rename => exact ho.elim
  | _ => exact id

@[reducible] def settling (root : Ref) (t : Name) : Regime where
  inv := Settling root t
  allows := LeavesMarker
  look op h := by
    cases op with
    | file o => cases o <;> trivial
    | _ => trivial
  stable w op c h ho := by
    refine exec_keeps h ?_ ?_ c
    · rintro o rfl order v es hm
      exact h.run ho hm
    · rintro r b b' rfl
      exact ho.elim

section Promotion

section

variable (hw : Kept root t g m files w.fs) {k : Ref}

include hw

lemma acts_renameGeneration_reserved (hl : Loyal t tx) :
    MethodActs (reserved root t g m files) renameGeneration tx (fun _ _ _ => True) w := by
  refine MethodActs.get_bind ?_
  split
  · exact MethodActs.pure hw trivial
  next hr =>
  have hne : tx.token ≠ t := fun ht => hr (hl ht).1
  rw [← bind_pure (storeStep (α := Unit) (unavailable (.sync tx.directory)))]
  exact acts_rename hw hw.root_eq ⟨rfl, by simp, by simp, by simp, by simpa using hne⟩ trivial
    fun _ _ _ _ _ hw1 _ => MethodActs.pure hw1 trivial

lemma acts_newMarker (u : Name) : Acts (reserved root t g m files)
      (writeMarker (markerTemporaryName u) (generationName u))
      (fun _ w' => ∃ k a, w'.fs.Member root (markerTemporaryName u) k (generationName u ++ [10]) a)
      w := by
  refine (acts_writeMarker (R := reserved root t g m files) hw
    (directoryAt_nil hw.root_eq hw.root_kind) trivial
    ⟨fun _ => trivial, fun _ => trivial, trivial⟩ _).mono fun _ w' _ _ h => ?_
  rw [h]
  exact ⟨_, _, (member_marker w.bounded hw.root_lt w.who _ _).1⟩

lemma wp_swapMarker {b : List UInt8} {a : Attributes}
    (hk : w.fs.Member root (markerTemporaryName u) k b a) :
    wp Host (reserved root t g m files).Inside
      (call (.rename [] (markerTemporaryName u) activeMarker))
      (fun r w' => Kept root t g m files w'.fs ∧ Beyond w w' ∧
        (r.isOk = true → w'.fs.lookup root activeMarker = some k ∧ w'.fs.bytes k = b)) w := by
  have hspares : Spares t (.file (.rename [] (markerTemporaryName u) activeMarker)) := by
    refine ⟨rfl, by simp, by simp, ?_, ?_⟩ <;> exact Artifact.name_ne_activeMarker.symm
  refine (reserved root t g m files).wp_call hw hspares (fun order v es hm h _ => ?_) nofun
  obtain rfl := meaning_rename_marker (directoryAt_nil hw.root_eq hw.root_kind) hk hm
  refine ⟨?_, hk.bytes⟩
  change ((Effect.change root _).run w.fs).lookup root activeMarker = _
  rw [lookup_change_two, if_pos ⟨rfl, rfl⟩]

lemma wp_sealMarker (hk : w.fs.lookup root activeMarker = some k ∧
      w.fs.bytes k = generationName u ++ [10]) :
    wp Host (reserved root t g m files).Inside (call (.sync root))
      (fun r w' => Kept root t g m files w'.fs ∧ Beyond w w' ∧
        (r.isOk = true → Selected root u w'.fs)) w := by
  refine (reserved root t g m files).wp_call hw trivial (fun order v es hm h _ => ?_) nofun
  cases hm
  refine ⟨k, pinnedEntry_of_lookup hk.1, ?_⟩
  change ((Effect.sync root).run w.fs).bytes k = _
  rw [bytes_sync, hk.2]

/-- Replacing the marker spares reserved tokens, and its success puts the new marker on the
disk. -/
lemma wp_replaceMarker_reserved (hd : tx.directory = root) :
    wp Host (reserved root t g m files).Inside (replaceMarker.run.run tx)
      (fun r w' => Kept root t g m files w'.fs ∧
        (r.2 = tx ∨ r.2 = { tx with markerReplaced := true }) ∧
        (r.1 = .ok () → Selected root tx.token w'.fs)) w := by
  subst hd
  change wp Host _ ((storeStep (writeMarker (markerTemporaryName tx.token)
    (generationName tx.token)) >>= _ : TransactionM Unit).run.run tx) _ w
  rw [wp_method_bind]
  refine wp_storeStep (wp_mono ?_ (acts_newMarker hw tx.token))
  rintro (e | u) w1 ⟨hw1, -, h1⟩
  · exact ⟨hw1, .inl rfl, nofun⟩
  obtain ⟨k, a, hk⟩ := h1 u rfl
  dsimp only
  rw [wp_method_bind]
  have hswap : Acts (reserved tx.directory t g m files)
      (unavailable (.rename [] (markerTemporaryName tx.token) activeMarker))
      (fun _ w' => w'.fs.lookup tx.directory activeMarker = some k ∧
        w'.fs.bytes k = generationName tx.token ++ [10]) w1 := by
    refine (Acts.lift (wp_swapMarker hw1 hk)).bind fun r w' hw' _ h => ?_
    cases r with
    | ok v => exact Acts.pure hw' (h rfl)
    | error e => exact Acts.throw hw' _
  refine wp_storeStep (wp_mono ?_ hswap)
  rintro (e | u') w2 ⟨hw2, -, h2⟩
  · exact ⟨hw2, .inl rfl, nofun⟩
  change wp Host _ ((storeStep (attempt (.sync tx.directory)) >>= _ : TransactionM Unit).run.run
    { tx with markerReplaced := true }) _ w2
  rw [wp_method_bind]
  refine wp_storeStep (wp_mono ?_ (Acts.lift (wp_sealMarker hw2 (h2 u' rfl))))
  rintro (e | a) w3 ⟨hw3, -, h3⟩
  · exact ⟨hw3, .inr rfl, nofun⟩
  cases a with
  | ok v => exact ⟨hw3, .inr rfl, fun _ => h3 _ rfl rfl⟩
  | error e => exact ⟨hw3, .inr rfl, nofun⟩

end

lemma wp_drop_settling (hw : Settling root t w.fs) (tx : CatacombPairTransaction) :
    wp Host (settling root t).Inside tx.drop (fun _ w' => Settling root t w'.fs) w := by
  have hremove : ∀ k : Artifact,
      Keeps (settling root t) (removePrivateGeneration (k.name tx.token)) := by
    refine fun k => keeps_removePrivateGeneration (fun n hn => ?_) (by simp [LeavesMarker])
    rintro rfl
    exact absurd hn (by decide)
  exact wp_mono (fun _ _ h => h.1) (wp_drop hw (by simp [LeavesMarker]) (fun _ => hremove .stage)
    fun _ _ => hremove .generation)

/-- What a program may do that can promote `t`: it spares the reservation, or the marker on the
disk names `t`. -/
def Releasing (root : Ref) (t : Name) (g m : Ref) (files : Name → Option Ref) (own : Prop)
    (w : World) (op : HostOp) : Prop :=
  (reserved root t g m files).Inside w op ∨ own ∧ Selected root t w.fs

lemma wp_promoteInner_reserved (hw : Kept root t g m files w.fs) (hl : Loyal t tx)
    (hd : tx.directory = root) (preserve : Bool) :
    wp Host (Releasing root t g m files (tx.token = t))
      ((promoteInner (pure ()) preserve).run.run tx)
      (fun r w' => Kept root t g m files w'.fs ∧ Loyal t r.2 ∨
        tx.token = t ∧ Settling root t w'.fs) w := by
  change wp Host _ ((if _ then _ else _ : TransactionM Unit).run.run tx) _ w
  split
  · exact .inl ⟨hw, hl⟩
  rw [wp_method_bind]
  refine wp_weaken (fun _ _ h => .inl h) ?_ (acts_renameGeneration_reserved hw hl)
  rintro ⟨e | u, tx1⟩ w1 ⟨hw1, -, hfollows, -⟩
  · exact .inl ⟨hw1, hl.follows hfollows⟩
  have hl1 := hl.follows hfollows
  change wp Host _ ((replaceMarker >>= fun _ => releaseRecovery : TransactionM Unit).run.run
    tx1) _ w1
  rw [wp_method_bind]
  refine wp_weaken (fun _ _ h => .inl h) ?_
    (wp_replaceMarker_reserved hw1 (hfollows.directory.trans hd))
  rintro ⟨r, tx2⟩ w2 ⟨hw2, htx, hselected⟩
  have hl2 : Loyal t tx2 := by
    rcases htx with rfl | rfl <;> exact hl1
  have htoken : tx2.token = tx.token := by
    rcases htx with rfl | rfl <;> exact hfollows.token
  cases r with
  | error e => exact .inl ⟨hw2, hl2⟩
  | ok u =>
    by_cases ht : tx.token = t
    · have hsel : Selected root t w2.fs := by
        rw [← ht, ← hfollows.token]
        exact hselected rfl
      refine wp_weaken (fun _ _ h => .inr ⟨ht, h.1.selected⟩) (fun _ _ h => .inr ⟨ht, h.1⟩)
        (wp_releaseRecovery (R := settling root t) ⟨w2.bounded, hsel⟩ ?_ trivial)
      simp [LeavesMarker]
    · have hne : tx2.token ≠ t := fun h => ht (htoken.symm.trans h)
      refine wp_weaken (fun _ _ h => .inl h) ?_ (wp_releaseRecovery hw2
        ⟨.inl rfl, by simpa using hne, by simp⟩ trivial)
      rintro r w3 ⟨hw3, -, h3, -⟩
      exact .inl ⟨hw3, fun h => absurd (h3.symm.trans h) hne⟩

/-- Promotion, with the drop that follows it, keeps the reservation of `t` or is of `t` itself and
finds its marker on the disk. -/
lemma wp_owned_promoteInner (hw : Kept root t g m files w.fs) (hl : Loyal t tx)
    (hd : tx.directory = root) (preserve : Bool) :
    wp Host (Releasing root t g m files (tx.token = t))
      (tx.owned (promoteInner (pure ()) preserve)).run
      (fun _ w' => Kept root t g m files w'.fs ∨ tx.token = t ∧ Selected root t w'.fs) w := by
  refine wp_seq (wp_promoteInner_reserved hw hl hd preserve) ?_
  rintro ⟨r, tx1⟩ w1 (⟨hw1, hl1⟩ | ⟨ht, hw1⟩)
  · rw [wp_bind]
    exact wp_weaken (fun _ _ h => .inl h) (fun _ _ h => .inl h) (wp_drop_reserved hw1 hl1)
  · rw [wp_bind]
    exact wp_weaken (fun _ _ h => .inr ⟨ht, h.1.selected⟩)
      (fun _ _ h => .inr ⟨ht, h.selected⟩) (wp_drop_settling hw1 tx1)

end Promotion

/-! ### Recovery -/

variable {ε : Type}

lemma keeps_recover : Keeps (reserved root t g m files) recover := by
  intro w hw
  refine acts_recover hw (fun _ => trivial) fun root' active tokens hd _ hlists => ?_
  obtain rfl := (eq_of_directoryAt_nil (Kept.root_eq hw) hd).1
  have hlisted : t ∈ tokens := hlists t m (Kept.recovery hw).lookup
  have hne : ∀ n, Stale active tokens n → n ≠ recoveryName t ∧ n ≠ generationName t := by
    rintro _ ⟨-, k, u, rfl, hk, hu⟩
    refine ⟨by simp [hk], fun h => ?_⟩
    obtain ⟨rfl, rfl⟩ := Artifact.name_inj.mp h
    rcases hu with hu | hu
    · cases hu
    · exact hu hlisted
  refine ⟨fun n hn => ⟨.inl rfl, hne n hn⟩, fun n m hn hm => ?_, fun n hn => ⟨.inl rfl, hne n hn⟩⟩
  exact ⟨.inr ⟨n, rfl, (hne n hn).2⟩, isPairFile_ne hm .recovery t, isPairFile_ne hm .generation t⟩

lemma keeps_readGenerations (names : List Name) :
    Keeps (reserved root t g m files) (readGenerations names) := by
  induction names with
  | nil => exact Keeps.pure []
  | cons n names ih =>
    refine ((Keeps.reads (reads_readPair n)).mapError _).bind fun pair => ?_
    refine (Keeps.ofExcept _).bind fun kind => ?_
    exact ih.bind fun generations => Keeps.pure _

lemma keeps_createReservation (directory : Ref) (n : Name) :
    Keeps (reserved root t g m files) (createReservation directory n) := by
  refine (Keeps.unavailable (o := .createFile [] n 0o600) trivial).bind fun marker => ?_
  refine (Keeps.unavailable (o := .metadata marker) trivial).bind fun metadata => ?_
  refine (Keeps.reads (reads_validatePrivateFileMetadata metadata)).bind fun _ => ?_
  refine (Keeps.unavailable (o := .sync marker) trivial).bind fun _ => ?_
  exact Keeps.unavailable (o := .sync directory) trivial

lemma keeps_recoveryTokens : Keeps (reserved root t g m files) recoveryTokens := by
  refine (Keeps.unavailable (o := .readDirectory []) trivial).bind fun names => ?_
  exact (Keeps.reads (reads_recoveryTokensOf names)).bind fun tokens => Keeps.pure _

/-- Reserving a legacy generation only adds a reservation. -/
lemma keeps_reserveUniqueInactiveLegacyRecovery :
    Keeps (reserved root t g m files) reserveUniqueInactiveLegacyRecovery := by
  refine ((Keeps.reads reads_openExistingDirectory).mapError _).bind fun directory => ?_
  refine ((Keeps.unavailable (o := .sync directory) trivial).mapError _).bind fun _ => ?_
  refine ((Keeps.reads reads_readActiveGeneration).mapError _).bind fun active => ?_
  have hgenerations : Keeps (reserved root t g m files) (legacyRecoveryGenerations active) := by
    refine ((Keeps.unavailable (o := .readDirectory []) trivial).mapError _).bind fun entries => ?_
    refine (Keeps.ofExcept _).bind fun names => ?_
    exact (Keeps.throw _).ite (keeps_readGenerations _)
  refine hgenerations.bind fun generations => ?_
  refine (Keeps.ofExcept _).bind fun pair => ?_
  refine (keeps_recoveryTokens.mapError _).bind fun tokens => ?_
  match tokens with
  | [] =>
    refine Keeps.ite ?_ (Keeps.throw _)
    exact ((keeps_createReservation directory _).mapError _).bind fun _ => Keeps.pure _
  | [token] => exact Keeps.ite (Keeps.pure _) (Keeps.throw _)
  | _ :: _ :: _ => exact Keeps.throw _

lemma acts_promoteCandidate (hw : Kept root t g m files w.fs) (u : Name) :
    Acts (reserved root t g m files) (promoteCandidate root u : RecoveryM ε Unit)
      (fun _ w' => Selected root u w'.fs) w := by
  refine ((keeps_removeTemporary u w hw).mapError _).bind fun _ w1 hw1 _ _ => ?_
  refine ((acts_newMarker hw1 u).mapError _).bind ?_
  rintro _ w2 hw2 - ⟨k, a, hk⟩
  refine (Acts.lift (wp_swapMarker hw2 hk)).bind fun r w3 hw3 _ h3 => ?_
  cases r with
  | error e =>
    refine (keeps_removeTemporary u w3 hw3).caught.bind fun _ w4 hw4 _ _ => ?_
    exact Acts.throw hw4 _
  | ok v =>
    refine (Acts.lift (wp_sealMarker hw3 (h3 rfl))).bind fun r w4 hw4 _ h4 => ?_
    cases r with
    | error e => exact Acts.throw hw4 _
    | ok v => exact Acts.pure hw4 (h4 rfl)

/-- The reservation is removed when the marker on the disk names the generation. -/
lemma wp_releaseRecovered (hw : Settling root t w.fs) :
    wp Host (Releasing root t g m files True) (do
        storeError (removePrivateFile [] (recoveryName t))
        storeError (unavailable (.sync root))
        pure .promoted : RecoveryM ε CatacombRecoveryOutcome).run
      (fun _ w' => Kept root t g m files w'.fs ∨ True ∧ Selected root t w'.fs) w := by
  have hremove : Keeps (settling root t) (removePrivateFile [] (recoveryName t)) :=
    keeps_removePrivateFile (by simp [LeavesMarker])
  refine wp_weaken (fun _ _ h => .inr ⟨trivial, h.1.selected⟩)
    (fun _ _ h => .inr ⟨trivial, h.1.selected⟩) (Keeps.bind (hremove.mapError _) (fun _ => ?_) w hw)
  refine ((Keeps.unavailable (o := .sync root) trivial).mapError _).bind fun _ => ?_
  exact Keeps.pure _

lemma wp_promoteRecovered (hw : Kept root t g m files w.fs)
    (hpinned : ∀ k, w.fs.lookup root activeMarker = some k →
      w.fs.PinnedEntry root activeMarker (some k)) : wp Host (Releasing root t g m files True)
      (promoteRecovered root t : RecoveryM ε CatacombRecoveryOutcome).run
      (fun _ w' => Kept root t g m files w'.fs ∨ True ∧ Selected root t w'.fs) w := by
  unfold promoteRecovered
  have hactive : Acts (reserved root t g m files) (storeError activeGeneration : RecoveryM ε _)
      (fun active w' => w = w' ∧ activeView w.fs w.who.uid = .ok active) w :=
    (Acts.reads reads_activeGeneration hw fun active h => ⟨rfl, h⟩).mapError _
  rw [wp_except_bind]
  refine wp_weaken (fun _ _ h => .inl h) ?_ hactive
  rintro (e | active) w1 ⟨hw1, -, h1⟩
  · exact .inl hw1
  obtain ⟨rfl, hview⟩ := h1 active rfl
  dsimp only
  split
  · rw [wp_except_bind]
    refine wp_weaken (fun _ _ h => .inl h) ?_ (acts_promoteCandidate hw t)
    rintro (e | u) w2 ⟨hw2, -, h2⟩
    · exact .inl hw2
    · exact wp_releaseRecovered ⟨w2.bounded, h2 u rfl⟩
  · next hmarker =>
    have hgeneration : active = some (generationName t) := by simpa using hmarker
    subst hgeneration
    obtain ⟨k, hopen, -, hbytes, -⟩ := markerView_ok (activeView_ok hview)
    exact wp_releaseRecovered
      ⟨w.bounded, k, hpinned k (lookup_of_openAt_one hw.root_eq hopen), hbytes⟩

/-- `recover_with_validator` spares the reservation, or the marker on the disk names it.  The
validator is the caller's: it asks no file system call. -/
lemma wp_recoverWithValidator_reserved (hw : Kept root t g m files w.fs)
    {validator : CatacombPair → HostProg (Except ε Bool)}
    (hv : ∀ pair, (validator pair).Only HostOp.IsElsewhere fun _ => True) :
    wp Host (Releasing root t g m files True) (recoverWithValidator validator).run
      (fun _ w' => Kept root t g m files w'.fs ∨ True ∧ Selected root t w'.fs) w := by
  unfold recoverWithValidator
  rw [wp_except_bind]
  refine wp_weaken (fun _ _ h => .inl h) ?_ (acts_findCandidate hw fun _ => trivial)
  rintro (e | r) w1 ⟨hw1, -, h1⟩
  · exact .inl hw1
  cases r with
  | error outcome => exact .inl hw1
  | ok candidate =>
  obtain ⟨directory, token, pair⟩ := candidate
  obtain ⟨hdirectory, hfs1, hlists, -⟩ := h1 _ rfl directory token pair rfl
  obtain rfl := (eq_of_directoryAt_nil hw.root_eq hdirectory).1
  obtain rfl : t = token := List.mem_singleton.mp (hlists t m (Kept.recovery hw1).lookup)
  have hpinned : ∀ k, w1.fs.lookup directory activeMarker = some k →
      w1.fs.PinnedEntry directory activeMarker (some k) := by
    intro k hk
    rw [hfs1, lookup_sync] at hk
    rw [hfs1]
    exact pinnedEntry_of_lookup hk
  dsimp only
  unfold judgeCandidate
  rw [wp_except_bind, Prog.wp_except_lift]
  refine wp_weaken ?_ ?_ (wp_elsewhere (hv pair) w1)
  · rintro w' op ⟨hop, hfs, -⟩
    refine Or.inl ⟨by rw [hfs]; exact hw1, ?_⟩
    cases op with
    | file o => exact hop.elim
    | _ => trivial
  rintro r w4 ⟨-, hfs, -⟩
  have hw4 : Kept directory t g m files w4.fs := by
    rw [hfs]
    exact hw1
  rcases r with e | verdict
  · exact .inl hw4
  cases verdict with
  | false => exact .inl hw4
  | true =>
    refine wp_promoteRecovered hw4 fun k hk => ?_
    rw [hfs] at hk ⊢
    exact hpinned k hk

end T1Bridge.Store
