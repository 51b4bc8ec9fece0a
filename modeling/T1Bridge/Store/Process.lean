import T1Bridge.Store.Atomicity
import T1Bridge.Store.Reservation

/-! # Processes that use the store

A process calls the store's functions one after the other, with any number of open transactions.
A call moves by one operation at a time; between any two operations the process can end or the
machine can crash, and a new process finds what is left (`Move.restart`).

Once `reserve_recovery` has returned, the reservation and the generation of its token stay until
the marker on the disk names the generation, which only the transaction itself or
`recover_with_validator` achieves (`Promotes`); until then no transaction begins. -/

namespace T1Bridge.Store

open FileSystem CatacombPairTransaction
open Prog (advance wp wp_bind wp_except_bind wp_map wp_mono wp_seq wp_trivial wp_weaken)
open CatacombPairTransaction (token)

variable {tx tx' : CatacombPairTransaction} {α : Type} {ε : Type}

/-- The caller's check of a reserved pair; it asks no file system call. -/
structure Validator (ε : Type) where
  run : CatacombPair → HostProg (Except ε Bool)
  elsewhere : ∀ pair, (run pair).Only HostOp.IsElsewhere fun _ => True

/-- Calls of the store; a method names the open transaction it is called on. -/
inductive Call (ε : Type) where
  | beginTransaction
  | reserveRecovery (i : ℕ)
  | writeMetadata (i : ℕ) (metadata : List UInt8)
  | writeUser (i : ℕ) (user : List UInt8)
  | writeMaster (i : ℕ) (master : List UInt8)
  | promote (i : ℕ)
  | promoteAfterNativeFinish (i : ℕ)
  | drop (i : ℕ)
  | commit (user master : List UInt8)
  | load
  | isEmptyForFirstOwner
  | recover
  | recoverWithValidator (validator : Validator ε)
  | reserveUniqueInactiveLegacyRecovery

/-- What a call returns. -/
inductive Report (ε : Type) where
  | done (r : Outcome Unit)
  | loaded (r : Outcome CatacombPair)
  | empty (r : Outcome Bool)
  | recovered (r : Except (CatacombRecoveryError ε) CatacombRecoveryOutcome)
  | legacy (r : Except LegacyRecoveryReservationError LegacyRecoveryReservation)
  | dropped

abbrev Handles := List CatacombPairTransaction

section

variable (handles : Handles)

/-- A method of an open transaction. -/
def method (i : ℕ) (body : TransactionM Unit) : HostProg (Report ε × Handles) :=
  match handles[i]? with
  | some tx => do
    let (r, tx) ← body.run.run tx
    pure (.done r, handles.set i tx)
  | none => pure (.done (.error .invalidTransactionState), handles)

/-- A method that takes its transaction, which ends with it. -/
def consume (i : ℕ) (body : CatacombPairTransaction → HostProg (Report ε)) :
    HostProg (Report ε × Handles) :=
  match handles[i]? with
  | some tx => do
    let r ← body tx
    pure (r, handles.eraseIdx i)
  | none => pure (.done (.error .invalidTransactionState), handles)

def Call.program : Call ε → HostProg (Report ε × Handles)
  | beginTransaction => do
    match ← Store.beginTransaction.run with
    | .ok tx => pure (.done (.ok ()), handles ++ [tx])
    | .error e => pure (.done (.error e), handles)
  | reserveRecovery i => method handles i CatacombPairTransaction.reserveRecovery
  | writeMetadata i metadata => method handles i (CatacombPairTransaction.writeMetadata metadata)
  | writeUser i user => method handles i (CatacombPairTransaction.writeUser user)
  | writeMaster i master => method handles i (CatacombPairTransaction.writeMaster master)
  | promote i => consume handles i fun tx =>
    .done <$> (tx.owned CatacombPairTransaction.promote).run
  | promoteAfterNativeFinish i => consume handles i fun tx =>
    .done <$> (tx.owned CatacombPairTransaction.promoteAfterNativeFinish).run
  | drop i => consume handles i fun tx => (fun _ => .dropped) <$> tx.drop
  | commit user master => (fun r => (.done r, handles)) <$> (Store.commit user master).run
  | load => (fun r => (.loaded r, handles)) <$> Store.load.run
  | isEmptyForFirstOwner => (fun r => (.empty r, handles)) <$> Store.isEmptyForFirstOwner.run
  | recover => (fun r => (.done r, handles)) <$> Store.recover.run
  | recoverWithValidator validator =>
    (fun r => (.recovered r, handles)) <$> (Store.recoverWithValidator validator.run).run
  | reserveUniqueInactiveLegacyRecovery =>
    (fun r => (.legacy r, handles)) <$> Store.reserveUniqueInactiveLegacyRecovery.run

end

/-! ### The machine -/

/-- A process: the world, its open transactions, and what is left of the call it is in. -/
structure Process (ε : Type) where
  world : World
  handles : Handles
  running : Option (Call ε × HostProg (Report ε × Handles))

/-- Moves of a process that calls the store and may be restarted. -/
inductive Move (ε : Type) where
  | call (c : Call ε)
  | step (choice : Choice)
  | finish
  | restart (world : World)

/-- The host of a process: its open transactions have different tokens. -/
def HostFor (handles : Handles) : Environment HostOp HostOp.Answer World Choice where
  admissible c w op := Host.admissible c w op ∧
    (op = .artifactToken → ∀ tx ∈ handles, tx.token ≠ artifactToken c.seed)
  exec := World.exec

section

/-- One call at a time; its steps ask what its program asks. -/
def Process.enabled (s : Process ε) : Move ε → Prop
  | .call _ => s.running = none
  | .step choice => ∃ c op next, s.running = some (c, .ask op next) ∧
      (HostFor s.handles).admissible choice s.world op
  | .finish => ∃ c r, s.running = some (c, .ret r)
  | .restart world => Left s.world.fs world.fs ∧ world.fs.Tree

def Process.step (s : Process ε) : Move ε → Option (Report ε) × Process ε
  | .call c => (none, { s with running := some (c, c.program s.handles) })
  | .step choice =>
    match s.running with
    | some (c, .ask op next) =>
      (none, ⟨(World.exec choice s.world op).2, s.handles,
        some (c, next (World.exec choice s.world op).1)⟩)
    | _ => (none, s)
  | .finish =>
    match s.running with
    | some (_, .ret (report, handles)) => (some report, ⟨s.world, handles, none⟩)
    | _ => (none, s)
  | .restart world => (none, ⟨world, [], none⟩)

def process (ε : Type) : Machine (Process ε) (Move ε) (Option (Report ε)) where
  init s := s.handles = [] ∧ s.running = none
  enabled := Process.enabled
  step := Process.step

abbrev ProcessEvent (ε : Type) := Machine.Event (Process ε) (Move ε) (Option (Report ε))

/-- The event is the return of the call `c` with the report `r`. -/
def Returns (e : ProcessEvent ε) (c : Call ε) (r : Report ε) : Prop :=
  e.input = .finish ∧ e.output = some r ∧ ∃ p, e.before.running = some (c, p)

/-- The call is one that promotes the generation of `t`: its transaction's own, or recovery. -/
def Call.Frees (t : Name) (handles : Handles) : Call ε → Prop
  | promote i | promoteAfterNativeFinish i => ∃ tx, handles[i]? = some tx ∧ tx.token = t
  | recoverWithValidator _ => True
  | _ => False

/-- Such a call is running, and the marker on the disk names the generation. -/
def Promotes (root : Ref) (t : Name) (e : ProcessEvent ε) : Prop :=
  Selected root t e.before.world.fs ∧
    ∃ c p, e.before.running = some (c, p) ∧ c.Frees t e.before.handles

end

/-! ### Before a token is reserved -/

/-- The store directory exists, and its entry in its parent is on the disk. -/
structure Mounted (root : Ref) (fs : FileSystem Name) : Prop where
  bounded : fs.Bounded
  tree : fs.Tree
  root_eq : fs.root = some root
  root_synced : fs.rootSynced = true

variable {body : TransactionM Unit} {c : Call ε} {handles : Handles} {root g m : Ref} {w : World}
  {t : Name} {i : ℕ}

lemma Mounted.exec (h : Mounted root w.fs) (op : HostOp) (c : Choice) :
    Mounted root (Host.exec c w op).2.fs := by
  refine exec_keeps h ?_ ?_ c
  · rintro o rfl order v es hm
    have hroot := meaning_root h.root_eq hm
    have hkeeps := meaning_keeps hm h.bounded
    exact ⟨hkeeps.1, hkeeps.2 h.tree, hroot.1, hroot.2.trans h.root_synced⟩
  · rintro r b b' rfl
    obtain ⟨hb, ht⟩ := keeps_write r b' h.bounded
    exact ⟨hb, ht h.tree, h.root_eq, h.root_synced⟩

@[reducible] def mounted (root : Ref) : Regime where
  inv := Mounted root
  allows _ := True
  look _ _ := trivial
  stable _ op c h _ := h.exec op c

/-- The open transactions are of this store and have different tokens. -/
structure Distinct (root : Ref) (handles : Handles) : Prop where
  nodup : (handles.map token).Nodup
  directory : ∀ tx ∈ handles, tx.directory = root

section Sane

variable {p : HostProg α}

lemma Distinct.append (h : Distinct root handles)
    (hd : tx.directory = root) (ht : ∀ tx' ∈ handles, tx'.token ≠ tx.token) :
    Distinct root (handles ++ [tx]) where
  nodup := by
    rw [List.map_append, List.nodup_append]
    refine ⟨h.nodup, List.nodup_singleton _, fun x hx y hy => ?_⟩
    obtain ⟨tx', htx', rfl⟩ := List.mem_map.mp hx
    cases List.mem_singleton.mp hy
    exact ht tx' htx'
  directory := List.forall_mem_append.mpr ⟨h.directory, List.forall_mem_singleton.mpr hd⟩

lemma Distinct.set (h : Distinct root handles)
    (htx : handles[i]? = some tx) (hf : Follows tx tx') : Distinct root (handles.set i tx') where
  nodup := by
    have hmap : (handles.set i tx').map token = handles.map token := by
      rw [List.map_set, hf.token]
      refine List.ext_getElem? fun j => ?_
      rw [List.getElem?_set]
      split
      · next hij =>
        subst hij
        rw [List.getElem?_map, htx]
        have := (List.getElem?_eq_some_iff.mp htx).1
        simp [this]
      · rfl
    rw [hmap]
    exact h.nodup
  directory x hx := by
    rcases List.mem_or_eq_of_mem_set hx with hx | rfl
    · exact h.directory x hx
    · exact hf.directory.trans (h.directory tx (List.mem_of_getElem? htx))

lemma Distinct.eraseIdx (h : Distinct root handles) (i : ℕ) :
    Distinct root (handles.eraseIdx i) where
  nodup := h.nodup.sublist ((List.eraseIdx_sublist handles i).map _)
  directory x hx := h.directory x (List.mem_of_mem_eraseIdx hx)

/-- How a call ends: the return of `reserve_recovery` finds its names on the disk. -/
structure CallEnd (root : Ref) (handles : Handles) (c : Call ε) (x : Report ε × Handles)
    (w : World) : Prop where
  distinct : Distinct root x.2
  reserved : ∀ i tx, c = .reserveRecovery i → handles[i]? = some tx → x.1 = .done (.ok ()) →
    x.2 = handles.set i { tx with generationRenamed := true, recoveryReserved := true } ∧
      ∃ g m, Kept root tx.token g m (fun _ => none) w.fs

lemma wp_hostFor {safe : World → HostOp → Prop} {Q : α → World → Prop} (h : wp Host safe p Q w) :
    wp (HostFor handles) (fun _ _ => True) p Q w :=
  wp_weaken (fun _ _ _ => trivial) (fun _ _ h => h)
    (Prog.wp_restrict (E := Host) rfl (fun _ _ _ h => h.1) h)

lemma wp_beginTransaction_distinct (hm : Mounted root w.fs) :
    wp (HostFor handles) (fun _ _ => True) beginTransaction.run (fun r _ => ∀ tx, r = .ok tx →
        tx.directory = root ∧ ∀ tx' ∈ handles, tx'.token ≠ tx.token) w := by
  unfold beginTransaction
  rw [wp_except_bind]
  refine wp_mono ?_ (wp_hostFor (acts_prepareDirectory (R := mounted root) trivial trivial hm))
  rintro (e | d) w1 ⟨hm1, -, h1⟩
  · rintro tx ⟨⟩
  obtain rfl := (eq_of_directoryAt_nil (Mounted.root_eq hm1) (storeView_ok (h1 d rfl)).1).1
  dsimp only
  rw [wp_except_bind]
  refine wp_mono ?_ (wp_trivial _ _)
  rintro (e | u) w2 -
  · rintro tx ⟨⟩
  rw [wp_except_bind, Prog.wp_except_lift]
  refine Prog.wp_perform trivial fun c hc => ?_
  dsimp only
  rw [wp_except_bind]
  refine wp_mono ?_ (wp_trivial _ _)
  rintro (e | u) w3 -
  · rintro tx ⟨⟩
  · rintro tx ⟨⟩
    exact ⟨rfl, hc.2 rfl⟩

lemma wp_method_distinct (hd : Distinct root handles) (hc : ∀ i, c ≠ .reserveRecovery i)
    (hbody : ∀ tx, MethodActs (mounted root) body tx (fun _ _ _ => True) w) :
    wp (HostFor handles) (fun _ _ => True) (method handles i body) (CallEnd root handles c) w := by
  unfold method
  split
  · next tx htx =>
    refine wp_seq (wp_hostFor (hbody tx)) ?_
    rintro ⟨r, tx'⟩ w' ⟨-, -, hf, -⟩
    exact ⟨hd.set htx hf, fun i tx h => absurd h (hc i)⟩
  · exact ⟨hd, fun i tx h => absurd h (hc i)⟩

lemma wp_reserve_distinct (hm : Mounted root w.fs) (hd : Distinct root handles) (i : ℕ) :
    wp (HostFor handles) (fun _ _ => True)
      (method handles i CatacombPairTransaction.reserveRecovery)
      (CallEnd root handles (.reserveRecovery i : Call ε)) w := by
  have hR : ∀ t, (mounted root).Reserves root t := fun t =>
    ⟨fun _ h => h.root_eq, trivial, trivial, fun _ _ => trivial, fun _ => trivial⟩
  unfold method
  split
  · next tx htx =>
    refine wp_seq (wp_hostFor (acts_reserveRecovery_of hm fun _ => hR tx.token)) ?_
    rintro ⟨r, tx'⟩ w' ⟨hm', -, hf, h⟩
    refine ⟨hd.set htx hf, ?_⟩
    rintro _ tx0 ⟨⟩ htx0 hr
    cases htx.symm.trans htx0
    cases hr
    obtain ⟨rfl, -, g, fs1, _, h1, rfl, hb, hk, hfs⟩ := h () rfl
    rw [hd.directory tx (List.mem_of_getElem? htx)] at hfs hk
    have hlt : root < ((Effect.sync root).run fs1).next := by
      change root < fs1.next
      exact h1.next ▸ w.bounded.root_lt root hm.root_eq
    refine ⟨rfl, g, ((Effect.sync root).run fs1).next, hm'.bounded, hm'.tree, hm'.root_eq,
      hm'.root_synced, ?_, ?_, ?_, nofun⟩
    all_goals rw [hfs]
    · rw [kind_run (fun _ h => by cases h), kind_runAll hlt, hk]
    · exact pinnedEntry_of_lookup (by simp [runAll, lookup_change_one])
    · refine pinnedEntry_of_lookup ?_
      simp [runAll, lookup_change_one, lookup_allocate, Nat.ne_of_lt hlt, h1.lookup]
  · next hnone =>
    refine ⟨hd, ?_⟩
    rintro _ tx ⟨⟩ htx
    cases hnone.symm.trans htx

lemma wp_consume_distinct (hd : Distinct root handles)
    (hc : ∀ i, c ≠ .reserveRecovery i) {body : CatacombPairTransaction → HostProg (Report ε)} :
    wp (HostFor handles) (fun _ _ => True) (consume handles i body) (CallEnd root handles c) w := by
  unfold consume
  split
  · rw [wp_bind]
    refine wp_mono (fun a w' _ => ?_) (wp_trivial _ w)
    exact ⟨hd.eraseIdx i, fun i tx h => absurd h (hc i)⟩
  · exact ⟨hd, fun i tx h => absurd h (hc i)⟩

lemma files_mounted : (mounted root).Files :=
  ⟨fun _ _ _ => trivial, fun _ => ⟨fun _ => trivial, fun _ => trivial, trivial⟩⟩

lemma wp_program_distinct (hm : Mounted root w.fs) (hd : Distinct root handles) (c : Call ε) :
    wp (HostFor handles) (fun _ _ => True) (c.program handles) (CallEnd root handles c) w := by
  cases c with
  | beginTransaction =>
    refine wp_seq (wp_beginTransaction_distinct hm) ?_
    rintro (e | tx) w' h
    · exact ⟨hd, nofun⟩
    · exact ⟨hd.append (h tx rfl).1 (h tx rfl).2, nofun⟩
  | reserveRecovery i => exact wp_reserve_distinct hm hd i
  | writeMetadata | writeUser | writeMaster =>
    exact wp_method_distinct hd (by simp) fun tx => acts_write_of files_mounted hm _ _ _ _
  | promote | promoteAfterNativeFinish | drop => exact wp_consume_distinct hd (by simp)
  | commit | load | isEmptyForFirstOwner | recover | recoverWithValidator
  | reserveUniqueInactiveLegacyRecovery =>
    refine (Prog.wp_map _ _).mpr (wp_mono (fun a w' _ => ⟨hd, fun i tx h => ?_⟩) (wp_trivial _ w))
    cases h

end Sane

/-- The state of a process whose store directory is durable. -/
structure Sane {ε : Type} (root : Ref) (s : Process ε) : Prop where
  mounted : Mounted root s.world.fs
  distinct : Distinct root s.handles
  running : ∀ c p, s.running = some (c, p) →
    wp (HostFor s.handles) (fun _ _ => True) p (CallEnd root s.handles c) s.world

lemma Mounted.left {fs img : FileSystem Name} (h : Mounted root fs)
    (hleft : Left fs img) (ht : img.Tree) : Mounted root img := by
  rcases hleft with rfl | hc
  · exact h
  exact ⟨hc.bounded h.bounded, ht, (hc.root_eq h.root_synced).trans h.root_eq, hc.rootSynced⟩

lemma Sane.step {s : Process ε} (h : Sane root s) (move : Move ε)
    (hen : s.enabled move) : Sane root (s.step move).2 := by
  cases move with
  | call c =>
    refine ⟨h.mounted, h.distinct, fun c' p hrun => ?_⟩
    cases hrun
    exact wp_program_distinct h.mounted h.distinct c
  | step choice =>
    obtain ⟨c, op, next, hrun, hadm⟩ := hen
    unfold Process.step
    rw [hrun]
    refine ⟨h.mounted.exec op choice, h.distinct, fun c' p hrun' => ?_⟩
    cases hrun'
    exact (h.running c _ hrun).2 choice hadm
  | finish =>
    obtain ⟨c, ⟨report, handles⟩, hrun⟩ := hen
    unfold Process.step
    rw [hrun]
    exact ⟨h.mounted, (h.running c _ hrun).distinct, nofun⟩
  | restart world =>
    exact ⟨h.mounted.left hen.1 hen.2, ⟨List.nodup_nil, nofun⟩, nofun⟩

/-! ### While a token is reserved -/

section Guarded

/-- The reservation of `t` and its generation are on the disk for good. -/
abbrev Reserved (root : Ref) (t : Name) (g m : Ref) (fs : FileSystem Name) : Prop :=
  Kept root t g m (fun _ => none) fs

/-- No open transaction undoes the reservation of `t`. -/
def Guarding (root : Ref) (t : Name) (handles : Handles) : Prop :=
  ∀ tx ∈ handles, Loyal t tx ∧ tx.directory = root

/-- No transaction begins, and where nothing else is wrong the reason is the pending export. -/
def Refused (root : Ref) (r : Report ε) (w : World) : Prop :=
  ∃ e, r = .done (.error e) ∧ Pending root e w

/-- How a call ends while `t` is reserved. -/
def GuardEnd (root : Ref) (t : Name) (g m : Ref) (handles : Handles) (c : Call ε)
    (x : Report ε × Handles) (w : World) : Prop :=
  (Reserved root t g m w.fs ∧ Guarding root t x.2 ∧ (c = .beginTransaction → Refused root x.1 w)) ∨
    c.Frees t handles ∧ Selected root t w.fs

lemma Guarding.get (h : Guarding root t handles)
    (htx : handles[i]? = some tx) : Loyal t tx ∧ tx.directory = root :=
  h tx (List.mem_of_getElem? htx)

lemma Guarding.set (h : Guarding root t handles)
    (htx : handles[i]? = some tx) (hf : Follows tx tx') : Guarding root t (handles.set i tx') := by
  intro x hx
  rcases List.mem_or_eq_of_mem_set hx with hx | rfl
  · exact h x hx
  · obtain ⟨hl, hd⟩ := h.get htx
    exact ⟨hl.follows hf, hf.directory.trans hd⟩

lemma Guarding.eraseIdx (h : Guarding root t handles) (i : ℕ) :
    Guarding root t (handles.eraseIdx i) :=
  fun x hx => h x (List.mem_of_mem_eraseIdx hx)

variable (hk : Reserved root t g m w.fs) (hh : Guarding root t handles)
include hk hh

section

variable (hc : c ≠ .beginTransaction)

include hc

lemma wp_method_guarded (hbody : ∀ tx, Loyal t tx →
      MethodActs (reserved root t g m fun _ => none) body tx (fun _ _ _ => True) w) :
    wp Host (Releasing root t g m (fun _ => none) (c.Frees t handles))
      (method handles i body) (GuardEnd root t g m handles c) w := by
  unfold method
  split
  · next tx htx =>
    rw [wp_bind]
    refine wp_weaken (fun _ _ h => .inl h) ?_ (hbody tx (hh.get htx).1)
    rintro ⟨r, tx'⟩ w' ⟨hk', -, hf, -⟩
    exact .inl ⟨hk', hh.set htx hf, fun h => absurd h hc⟩
  · exact .inl ⟨hk, hh, fun h => absurd h hc⟩

lemma wp_consume_guarded {body : CatacombPairTransaction → HostProg (Report ε)}
    (hbody : ∀ tx, handles[i]? = some tx →
      wp Host (Releasing root t g m (fun _ => none) (c.Frees t handles)) (body tx)
        (fun _ w' => Reserved root t g m w'.fs ∨ c.Frees t handles ∧ Selected root t w'.fs) w) :
    wp Host (Releasing root t g m (fun _ => none) (c.Frees t handles))
      (consume handles i body) (GuardEnd root t g m handles c) w := by
  unfold consume
  split
  · next tx htx =>
    refine wp_seq (hbody tx htx) ?_
    rintro r w' (hk' | hsel)
    · exact .inl ⟨hk', hh.eraseIdx i, fun h => absurd h hc⟩
    · exact .inr hsel
  · exact .inl ⟨hk, hh, fun h => absurd h hc⟩

lemma wp_keeps_guarded {δ : Type} {p : ExceptT δ HostProg α}
    (hp : Keeps (reserved root t g m fun _ => none) p) (report : Except δ α → Report ε) :
    wp Host (Releasing root t g m (fun _ => none) (c.Frees t handles))
      ((fun r => (report r, handles)) <$> p.run) (GuardEnd root t g m handles c) w := by
  rw [wp_map]
  refine wp_weaken (fun _ _ h => .inl h) ?_ (hp w hk)
  rintro r w' ⟨hk', -, -⟩
  exact .inl ⟨hk', hh, fun h => absurd h hc⟩

/-- A promotion is of another token, or finds its marker on the disk before it removes the
reservation. -/
lemma wp_promote_guarded (preserve : Bool)
    (hfrees : ∀ tx, handles[i]? = some tx → tx.token = t → c.Frees t handles) :
    wp Host (Releasing root t g m (fun _ => none) (c.Frees t handles))
      (consume handles i fun tx => .done <$> (tx.owned (promoteInner (pure ()) preserve)).run)
      (GuardEnd root t g m handles c) w := by
  refine wp_consume_guarded hk hh hc fun tx htx => ?_
  rw [wp_map]
  obtain ⟨hl, hd⟩ := hh.get htx
  refine wp_weaken ?_ ?_ (wp_owned_promoteInner hk hl hd preserve)
  · rintro w' op (h | ⟨ht, h⟩)
    · exact .inl h
    · exact .inr ⟨hfrees tx htx ht, h⟩
  · rintro r w' (h | ⟨ht, h⟩)
    · exact .inl h
    · exact .inr ⟨hfrees tx htx ht, h⟩

end

lemma wp_program_guarded (c : Call ε) :
    wp Host (Releasing root t g m (fun _ => none) (c.Frees t handles)) (c.program handles)
      (GuardEnd root t g m handles c) w := by
  cases c with
  | beginTransaction =>
    change wp Host _ (beginTransaction.run >>= _) _ w
    rw [wp_bind]
    refine wp_weaken (fun _ _ h => .inl h) ?_ (wp_beginTransaction_reserved hk)
    rintro r w' ⟨hk', e, rfl, hpending⟩
    exact .inl ⟨hk', hh, fun _ => ⟨e, rfl, hpending⟩⟩
  | reserveRecovery i =>
    exact wp_method_guarded hk hh (by simp) fun tx hl => acts_reserveRecovery_reserved hk hl
  | writeMetadata i metadata | writeUser i user | writeMaster i master =>
    exact wp_method_guarded hk hh (by simp) fun tx _ => acts_write_of files_reserved hk _ _ _ _
  | promote i =>
    exact wp_promote_guarded hk hh (by simp) false fun tx htx ht => ⟨tx, htx, ht⟩
  | promoteAfterNativeFinish i =>
    exact wp_promote_guarded hk hh (by simp) true fun tx htx ht => ⟨tx, htx, ht⟩
  | drop i =>
    refine wp_consume_guarded hk hh (by simp) fun tx htx => ?_
    rw [wp_map]
    exact wp_weaken (fun _ _ h => .inl h) (fun _ _ h => .inl h) (wp_drop_reserved hk (hh.get htx).1)
  | commit user master =>
    exact wp_keeps_guarded hk hh (by simp) (keeps_commit user master) _
  | load => exact wp_keeps_guarded hk hh (by simp) (Keeps.reads reads_load) _
  | isEmptyForFirstOwner =>
    exact wp_keeps_guarded hk hh (by simp) keeps_isEmptyForFirstOwner _
  | recover => exact wp_keeps_guarded hk hh (by simp) keeps_recover _
  | recoverWithValidator validator =>
    change wp Host _ ((fun r => (_, handles)) <$> (Store.recoverWithValidator _).run) _ w
    rw [wp_map]
    refine wp_mono ?_ (wp_recoverWithValidator_reserved hk validator.elsewhere)
    rintro r w' (hk' | hsel)
    · exact .inl ⟨hk', hh, nofun⟩
    · exact .inr hsel
  | reserveUniqueInactiveLegacyRecovery =>
    exact wp_keeps_guarded hk hh (by simp) keeps_reserveUniqueInactiveLegacyRecovery _

end Guarded

/-- The state of a process while `t` is reserved. -/
structure Guarded {ε : Type} (root : Ref) (t : Name) (g m : Ref) (s : Process ε) : Prop where
  reserved : Reserved root t g m s.world.fs
  handles : Guarding root t s.handles
  running : ∀ c p, s.running = some (c, p) →
    wp Host (Releasing root t g m (fun _ => none) (c.Frees t s.handles)) p
      (GuardEnd root t g m s.handles c) s.world

section

variable {s s' : Process ε} {e : ProcessEvent ε}

/-- One move: the marker on the disk names `t`, or everything reserved stays, with all the files
its generation has. -/
lemma Guarded.fires (h : Guarded root t g m e.before) (he : (process ε).Fires e) :
    Promotes root t e ∨ (Guarded root t g m e.after ∧
      (∀ files, Kept root t g m files e.before.world.fs → Kept root t g m files e.after.world.fs) ∧
      ∀ r, Returns e .beginTransaction r → Refused root r e.after.world) := by
  obtain ⟨s, move, out, s'⟩ := e
  obtain ⟨hen, hstep⟩ := he
  change s.step move = (out, s') at hstep
  cases move with
  | call c =>
    cases hstep
    refine Or.inr ⟨⟨h.reserved, h.handles, fun c' p hrun => ?_⟩, fun _ hk => hk,
      fun r hr => by cases hr.1⟩
    cases hrun
    exact wp_program_guarded h.reserved h.handles c
  | step choice =>
    obtain ⟨c, op, next, hrun, hadm, -⟩ := hen
    unfold Process.step at hstep
    rw [show s.running = _ from hrun] at hstep
    cases hstep
    obtain ⟨hsafe, hnext⟩ := h.running c _ hrun
    rcases hsafe with ⟨-, hspares⟩ | ⟨hfrees, hsel⟩
    · refine Or.inr ⟨⟨h.reserved.exec hspares choice, h.handles, fun c' p hrun' => ?_⟩,
        fun files hk => hk.exec hspares choice, fun r hr => by cases hr.1⟩
      cases hrun'
      exact hnext choice hadm
    · exact .inl ⟨hsel, c, _, hrun, hfrees⟩
  | finish =>
    obtain ⟨c, ⟨report, handles⟩, hrun⟩ := hen
    unfold Process.step at hstep
    rw [show s.running = _ from hrun] at hstep
    cases hstep
    rcases h.running c _ hrun with ⟨hk, hh, hbegin⟩ | ⟨hfrees, hsel⟩
    · refine Or.inr ⟨⟨hk, hh, nofun⟩, fun _ hk => hk, ?_⟩
      rintro r ⟨-, hout, p, hrun'⟩
      cases hout
      cases hrun.symm.trans hrun'
      exact hbegin rfl
    · exact .inl ⟨hsel, c, _, hrun, hfrees⟩
  | restart world =>
    cases hstep
    obtain ⟨hleft, htree⟩ := hen
    have hkept : ∀ files, Kept root t g m files s.world.fs → Kept root t g m files world.fs := by
      intro files hk
      rcases hleft with heq | hc
      · rw [heq]
        exact hk
      · exact hk.crash hc htree
    exact .inr ⟨⟨hkept _ h.reserved, nofun, nofun⟩, hkept, fun r hr => by cases hr.1⟩

lemma Guarded.run {tr : List (ProcessEvent ε)} (h : Guarded root t g m s)
    (hrun : (process ε).Run s tr s') (hno : ∀ e ∈ tr, ¬ Promotes root t e) : Guarded root t g m s' ∧
      (∀ files, Kept root t g m files s.world.fs → Kept root t g m files s'.world.fs) ∧
      ∀ e ∈ tr, ∀ r, Returns e .beginTransaction r → Refused root r e.after.world := by
  induction hrun with
  | nil => exact ⟨h, fun _ hk => hk, fun e he => by cases he⟩
  | snoc _ he ih =>
    obtain ⟨hg, hkept, hbegin⟩ := ih fun e' he' => hno e' (by simp [he'])
    rcases hg.fires he with hp | ⟨hg', hkept', hbegin'⟩
    · exact absurd hp (hno _ (by simp))
    · exact ⟨hg', fun files hk => hkept' files (hkept files hk),
        List.forall_mem_append.mpr ⟨hbegin, List.forall_mem_singleton.mpr hbegin'⟩⟩

/-- The return of `reserve_recovery` begins the time in which its token is guarded. -/
lemma Sane.guarded (h : Sane root e.before)
    (he : (process ε).Fires e) (hret : Returns e (.reserveRecovery i) (.done (.ok ())))
    (htx : e.before.handles[i]? = some tx) : ∃ g m, Guarded root tx.token g m e.after := by
  obtain ⟨s, move, out, s'⟩ := e
  obtain ⟨hen, hstep⟩ := he
  obtain ⟨rfl, rfl, p, hrun⟩ := hret
  obtain ⟨c, ⟨report, handles⟩, hrun'⟩ := hen
  change s.step .finish = _ at hstep
  unfold Process.step at hstep
  rw [hrun'] at hstep
  cases hrun.symm.trans hrun'
  cases hstep
  have hend := h.running _ _ hrun'
  obtain ⟨hhandles, g, m, hk⟩ := hend.reserved i tx rfl htx rfl
  refine ⟨g, m, hk, fun x hx => ⟨?_, hend.distinct.directory x hx⟩, nofun⟩
  intro ht
  have hhandles : handles = _ := hhandles
  rw [hhandles] at hx
  obtain ⟨j, hj⟩ := List.getElem?_of_mem hx
  rw [List.getElem?_set] at hj
  split at hj
  · split at hj
    · cases hj
      exact ⟨rfl, rfl⟩
    · cases hj
  next hij =>
  have hi : (s.handles.map token)[i]? = some tx.token := by
    rw [List.getElem?_map, show s.handles[i]? = _ from htx]
    rfl
  have hj : (s.handles.map token)[j]? = some tx.token := by
    rw [List.getElem?_map, hj, Option.map_some, ht]
  have hlt := (List.getElem?_eq_some_iff.mp hi).1
  exact absurd ((List.getElem?_inj hlt h.distinct.nodup).mp (hi.trans hj.symm)) hij

/-- From this state on the reservation of `t` outlives every run in which it is not promoted: its
generation and the files that the generation has stay on the disk, and no transaction begins. -/
def Survives (root : Ref) (t : Name) (g m : Ref) (s : Process ε) : Prop :=
  ∀ tr s', (process ε).Run s tr s' → (∀ e ∈ tr, ¬ Promotes root t e) →
    (∀ files, Kept root t g m files s.world.fs → Kept root t g m files s'.world.fs) ∧
    ∀ e ∈ tr, ∀ r, Returns e .beginTransaction r → Refused root r e.after.world

/-- **Reservations.**  Once `reserve_recovery` has returned, in any run of processes over the
store, its generation stays until its own transaction or `recover_with_validator` promotes it.
Wherever `recover` is stopped, it has removed nothing of the active or of a reserved generation,
and neither it nor `reserve_recovery` changes what `load` returns. -/
theorem reservation_survives (ε : Type) (root : Ref) :
    (∀ (s0 : Process ε) (tr0 : List (ProcessEvent ε)) (e : ProcessEvent ε) (i : ℕ)
      (tx : CatacombPairTransaction), (process ε).init s0 → Mounted root s0.world.fs →
      (process ε).Run s0 tr0 e.before → (process ε).Fires e →
      Returns e (.reserveRecovery i) (.done (.ok ())) → e.before.handles[i]? = some tx →
      ∃ g m, Reserved root tx.token g m e.after.world.fs ∧
        ∀ tr s, (process ε).Run e.after tr s → (∀ e' ∈ tr, ¬ Promotes root tx.token e') →
          Survives root tx.token g m s) ∧
    (∀ (w w' : World) (p : HostProg (Except CatacombStoreError Unit)), w.fs.root = some root →
      w.fs.Tree → Prog.Steps Host recover.run w p w' →
      loadView w'.fs w.who.uid = loadView w.fs w.who.uid ∧
        (∀ g, markerView w.fs w.who.uid = .ok g → SameGeneration root g w.fs w'.fs) ∧
        ∀ t r, w.fs.lookup root (recoveryName t) = some r →
          SameGeneration root (generationName t) w.fs w'.fs) ∧
    ∀ (tx : CatacombPairTransaction) (w w' : World)
      (p : HostProg (Except CatacombStoreError Unit × CatacombPairTransaction)),
      w.fs.root = some root →
      (∀ r, w.fs.lookup root (stageName tx.token) = some r → w.fs.kind r = .directory) →
      markerView w.fs w.who.uid ≠ .ok (generationName tx.token) →
      Prog.Steps Host (CatacombPairTransaction.reserveRecovery.run.run tx) w p w' →
      loadView w'.fs w.who.uid = loadView w.fs w.who.uid := by
  refine ⟨?_, fun w w' p hroot ht hp => recover_steps hroot ht hp,
    fun tx w w' p hroot hstage hmarker hp => reserveRecovery_steps hroot hstage hmarker hp⟩
  intro s0 tr0 e i tx hinit hm hrun0 he hret htx
  have hsane0 : Sane root s0 := by
    refine ⟨hm, ⟨?_, fun x hx => ?_⟩, fun c p hrun => ?_⟩
    · rw [hinit.1]
      exact List.nodup_nil
    · rw [hinit.1] at hx
      cases hx
    · rw [hinit.2] at hrun
      cases hrun
  have hsane : Sane root e.before := hrun0.invariant (fun s move hen hs => hs.step move hen) hsane0
  obtain ⟨g, m, hguarded⟩ := hsane.guarded he hret htx
  refine ⟨g, m, hguarded.reserved, fun tr s hrun hno tr' s' hrun' hno' => ?_⟩
  exact ((hguarded.run hrun hno).1.run hrun' hno').2

end

/-! ### A reservation in a store with one pair -/

/-- The host of a process with a test for what can be chosen. -/
def TestedHostFor (handles : Handles) : Environment HostOp HostOp.Answer World Choice where
  admissible c w op := (match op with
    | .artifactToken => isFresh w.fs (artifactToken c.seed) &&
        handles.all fun tx => tx.token != artifactToken c.seed
    | _ => true) = true
  exec := World.exec

instance (handles : Handles) (c : Choice) (w : World) (op : HostOp) :
    Decidable ((TestedHostFor handles).admissible c w op) := inferInstanceAs (Decidable (_ = true))

lemma steps_advance_for (handles : Handles) (cs : List Choice) (p : HostProg α)
    (w : World) : Prog.Steps (HostFor handles) p w (advance (TestedHostFor handles) cs p w).1
      (advance (TestedHostFor handles) cs p w).2 := by
  refine Prog.Steps.mono ?_ ?_ (Prog.advance_steps cs p w)
  · rfl
  intro c w op hop
  constructor
  · rintro rfl
    exact fresh_of_isFresh w.bounded (Bool.and_eq_true_iff.mp hop).1
  · rintro rfl tx htx
    have := List.all_eq_true.mp (Bool.and_eq_true_iff.mp hop).2 tx htx
    simpa using this

section

variable {handles' : Handles} {w' : World} {r : Report ε}

lemma run_steps {p p' : HostProg (Report ε × Handles)}
    (h : Prog.Steps (HostFor handles) p w p' w') :
    ∃ tr, (process ε).Run ⟨w, handles, some (c, p)⟩ tr ⟨w', handles, some (c, p')⟩ := by
  induction h with
  | refl p w => exact ⟨[], Machine.Run.nil _⟩
  | @step op next w w' p' choice hadm _ ih =>
    obtain ⟨tr, hrun⟩ := ih
    let e : ProcessEvent ε := ⟨⟨w, handles, some (c, .ask op next)⟩, .step choice, none,
      ⟨(World.exec choice w op).2, handles, some (c, next (World.exec choice w op).1)⟩⟩
    have he : (process ε).Fires e := ⟨⟨c, op, next, rfl, hadm⟩, rfl⟩
    exact ⟨_, (Machine.Run.single he).append hrun⟩

lemma run_call (h : Prog.Steps (HostFor handles) (c.program handles) w (.ret (r, handles')) w') :
    ∃ tr e, (process ε).Run ⟨w, handles, none⟩ tr e.before ∧ (process ε).Fires e ∧
      Returns e c r ∧ e.before.handles = handles ∧ e.after = ⟨w', handles', none⟩ := by
  obtain ⟨tr, hrun⟩ := run_steps h
  let e1 : ProcessEvent ε := ⟨⟨w, handles, none⟩, .call c, none,
    ⟨w, handles, some (c, c.program handles)⟩⟩
  let e2 : ProcessEvent ε := ⟨⟨w', handles, some (c, .ret (r, handles'))⟩, .finish, some r,
    ⟨w', handles', none⟩⟩
  have he1 : (process ε).Fires e1 := ⟨rfl, rfl⟩
  have he2 : (process ε).Fires e2 := ⟨⟨c, (r, handles'), rfl⟩, rfl⟩
  exact ⟨_, e2, (Machine.Run.single he1).append hrun, he2, ⟨rfl, rfl, _, rfl⟩, rfl, rfl⟩

end

/-- The transaction begun in the store with one pair. -/
def begunHandles : Handles := [⟨0, artifactToken seedChoice.seed, .empty, false, false, false⟩]

def begunRun : HostProg (Report Unit × Handles) × World :=
  advance (TestedHostFor []) (List.replicate 30 seedChoice)
    (Call.beginTransaction.program []) onePairWorld

def reservedRun : HostProg (Report Unit × Handles) × World :=
  advance (TestedHostFor begunHandles) (List.replicate 30 seedChoice)
    ((Call.reserveRecovery 0).program begunHandles) begunRun.2

lemma mounted_onePair : Mounted 0 onePairWorld.fs :=
  ⟨onePairWorld.bounded, tree_ofNodes (by decide +kernel), rfl, rfl⟩

theorem reservation_survives_onePair : ∃ s : Process Unit, ∃ g m, s.world = reservedRun.2 ∧
      Reserved 0 (artifactToken seedChoice.seed) g m s.world.fs ∧
      Survives 0 (artifactToken seedChoice.seed) g m s := by
  have hsteps : Prog.Steps (HostFor []) (Call.beginTransaction.program []) onePairWorld
      begunRun.1 begunRun.2 := steps_advance_for [] _ _ _
  have hsteps' : Prog.Steps (HostFor begunHandles) ((Call.reserveRecovery 0).program begunHandles)
      begunRun.2 reservedRun.1 reservedRun.2 := steps_advance_for begunHandles _ _ _
  obtain ⟨tr1, e1, hrun1, he1, -, -, hafter1⟩ := run_call hsteps
  obtain ⟨tr2, e2, hrun2, he2, hret, hhandles, hafter2⟩ := run_call hsteps'
  have hrun : (process Unit).Run ⟨onePairWorld, [], none⟩ (tr1 ++ [e1] ++ tr2) e2.before := by
    refine (hrun1.snoc he1).append ?_
    rw [hafter1]
    exact hrun2
  obtain ⟨g, m, hk, hs⟩ := (reservation_survives Unit 0).1 _ _ e2 0
    ⟨0, artifactToken seedChoice.seed, .empty, false, false, false⟩ ⟨rfl, rfl⟩ mounted_onePair hrun
    he2 hret (by rw [hhandles]; rfl)
  exact ⟨e2.after, g, m, by rw [hafter2], hk, hs [] _ (Machine.Run.nil _) fun e he => by cases he⟩

end T1Bridge.Store
