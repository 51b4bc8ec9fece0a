import T1Bridge.Store.Area

/-! # Transactions

What each method of a transaction has made durable when it succeeds (`Prepared`), and what
a crash leaves at any point: until the marker is replaced the store is as the transaction found
it (`Working`), afterwards every crash leaves either that or the complete new pair
(`Replaced`). -/

namespace T1Bridge.Store

open MethodActs (get_bind modify_bind)
open FileSystem CatacombPairTransaction

variable {e : Effect Name} {n : Name} {b : List UInt8} {tx : CatacombPairTransaction}
  {who : Credentials} {root g m : Ref} {t : Name} {es : List (Effect Name)} {w : World}
  {fs : FileSystem Name} {old : Ref}

/-- The attributes of the files a transaction writes. -/
def privateFile (who : Credentials) : Attributes := ⟨.regular, 0o600, who⟩

/-- The attributes of its directory. -/
def privateDirectory (who : Credentials) : Attributes := ⟨.directory, 0o700, who⟩

/-! ### The generation directory -/

/-- The directory `g` holds exactly these files, and no crash changes that. -/
structure Held (fs : FileSystem Name) (g : Ref) (who : Credentials)
    (members : Name → Option (Ref × List UInt8)) : Prop where
  attributes : fs.attributes g = privateDirectory who
  lt : g < fs.next
  member : ∀ n f b, members n = some (f, b) → fs.PinnedMember g n f b (privateFile who)
  absent : ∀ n, members n = none → fs.PinnedEntry g n none

namespace Held

variable {members : Name → Option (Ref × List UInt8)}

section

variable (h : Held fs g who members)

include h

lemma run (hc : ∀ c, e ≠ .change g c) (hm : ∀ m, e ≠ .chmod g m)
    (he : ∀ n f b, members n = some (f, b) → e.Spares g n f) : Held (e.run fs) g who members where
  attributes := by
    rw [attributes_run h.lt hm]
    exact h.attributes
  lt := Nat.lt_of_lt_of_le h.lt (next_le_run e)
  member n f b hn := (h.member n f b hn).run (he n f b hn)
  absent n hn := (h.absent n hn).run (Nat.ne_of_lt h.lt) fun c hce => absurd hce (hc c)

lemma crash {img : FileSystem Name} (hc : Crash fs img) : Held img g who members where
  attributes := by rw [hc.attributes, h.attributes]
  lt := by rw [hc.next]; exact h.lt
  member n f b hn := (h.member n f b hn).crash hc
  absent n hn := (h.absent n hn).crash hc

/-- The effect is on nothing that was below `old`, but may give `g` another name. -/
def Avoids (g old : Ref) : Effect Name → Prop
  | .allocate _ | .sync _ | .setRoot _ => True
  | .change d c => d ≠ g ∧ ∀ x ∈ c, ∀ r, x.2 = some r → r = g ∨ old ≤ r
  | .write q _ | .chmod q _ => old ≤ q

lemma run_avoids (hg : g < old) (hold : ∀ n f b, members n = some (f, b) → f < old)
    (he : Avoids g old e) :
    Held (e.run fs) g who members := by
  refine h.run ?_ ?_ fun n f b hn => ?_
  · rintro c rfl
    exact he.1 rfl
  · rintro m rfl
    exact Nat.not_le.mpr hg he
  have hf := hold n f b hn
  have hfg : f ≠ g := by
    -- the files of the directory are no directories
    rintro rfl
    have := (h.member n f b hn).attributes.symm.trans h.attributes
    cases this
  cases e with
  | change d c =>
    refine fun x hx => ⟨fun hd => absurd hd he.1, fun hr => ?_⟩
    rcases he.2 x hx f hr with hr | hr
    · exact hfg hr
    · exact Nat.not_le.mpr hf hr
  | write q b' | chmod q m =>
    rintro rfl
    exact Nat.not_le.mpr hf he
  | _ => trivial

lemma runAll_avoids (hg : g < old) (hold : ∀ n f b, members n = some (f, b) → f < old)
    (he : ∀ e ∈ es, Avoids g old e) :
    Held (fs.runAll es) g who members := by
  induction es generalizing fs with
  | nil => exact h
  | cons e es ih =>
    exact ih (h.run_avoids hg hold (he e (by simp))) fun e' he' => he e' (by simp [he'])

lemma runAll (he : ∀ e ∈ es, Avoids g fs.next e) : Held (fs.runAll es) g who members :=
  h.runAll_avoids h.lt (fun n f b hn => (h.member n f b hn).lt) he

end

lemma write (h : Held fs g who members) (hb : fs.Bounded) (hn : members n = none)
    (b : List UInt8) : Held (fs.runAll (blobEffects fs who g n b ++ [.sync g])) g who
      (Function.update members n (some (fs.next, b))) := by
  have hg : fs.next ≠ g := (Nat.ne_of_lt h.lt).symm
  refine ⟨?_, Nat.lt_of_lt_of_le h.lt (next_le_runAll _), fun m f b' hm => ?_, fun m hm => ?_⟩
  · rw [← h.attributes]
    simp [FileSystem.runAll, blobEffects, Effect.run, hg.symm]
  · by_cases hmn : m = n
    · subst hmn
      rw [Function.update_self] at hm
      cases hm
      exact (((Member.create hb h.lt m _).chmod 0o600).write b).pinned
    · rw [Function.update_of_ne hmn] at hm
      have hpin := h.member m f b' hm
      have hne : fs.next ≠ f := (Nat.ne_of_lt hpin.lt).symm
      exact hpin.runAll (by simp [blobEffects, Effect.Spares, hne, Ne.symm hmn])
  · have hmn : m ≠ n := by
      rintro rfl
      rw [Function.update_self] at hm
      cases hm
    rw [Function.update_of_ne hmn] at hm
    refine (h.absent m hm).runAll h.lt fun c hc x hx => ?_
    simp [blobEffects] at hc
    subst hc
    cases List.mem_singleton.mp hx
    exact hmn.symm

end Held

/-! ### What the methods make durable -/

/-- The bytes a transaction has written. -/
structure Written where
  metadata : Option (List UInt8) := none
  user : Option (List UInt8) := none
  master : Option (List UInt8) := none

variable (c : Written)

def Written.file (n : Name) : Option (List UInt8) :=
  if n = identityMetadataFile then c.metadata
  else if n = userFile then c.user
  else if n = masterFile then c.master
  else none

/-- What is written in each state of a transaction. -/
def Written.Reached : TransactionState → Prop
  | .empty => c = {}
  | .metadataDurable => c.user = none ∧ c.master = none
  | .userDurable => c.user.isSome = true ∧ c.master = none
  | .pairDurable => c.user.isSome = true ∧ c.master.isSome = true

lemma Written.file_metadata (c : Written) (b : List UInt8) (n : Name) :
    { c with metadata := some b }.file n =
      if n = identityMetadataFile then some b else c.file n := by
  unfold Written.file
  split_ifs <;> rfl

lemma Written.file_user (c : Written) (b : List UInt8) (n : Name) :
    { c with user := some b }.file n = if n = userFile then some b else c.file n := by
  have hne : userFile ≠ identityMetadataFile := by decide
  unfold Written.file
  by_cases hn : n = userFile
  · simp [hn, hne]
  · simp [hn]

lemma Written.file_master (c : Written) (b : List UInt8) (n : Name) :
    { c with master := some b }.file n = if n = masterFile then some b else c.file n := by
  have hne : masterFile ≠ identityMetadataFile ∧ masterFile ≠ userFile := by decide
  unfold Written.file
  by_cases hn : n = masterFile
  · simp [hn, hne]
  · simp [hn]

/-- What was written passes its check. -/
structure Written.Valid : Prop where
  metadata : ∀ b, c.metadata = some b → validateMetadata b = .ok ()
  user : ∀ b, c.user = some b → validateBlob b = .ok ()
  master : ∀ b, c.master = some b → validateBlob b = .ok ()

/-- The names of the transaction stand for what its flags say. -/
structure Placed (root : Ref) (t : Name) (g m : Ref) (who : Credentials)
    (tx : CatacombPairTransaction) (fs : FileSystem Name) : Prop where
  staged : tx.generationRenamed = false →
    fs.lookup root (stageName t) = some g ∧ fs.lookup root (generationName t) = none
  renamed : tx.generationRenamed = true →
    fs.PinnedEntry root (generationName t) (some g) ∧ fs.PinnedEntry root (stageName t) none
  reserved : tx.recoveryReserved = true → tx.generationRenamed = true ∧
    fs.PinnedMember root (recoveryName t) m [] (privateFile who)

/-- The transaction `tx` has the directory `g` with what was written, at the place its flags
say, and what it reserved is reserved, with the marker `m`. -/
structure Prepared (root : Ref) (t : Name) (g m : Ref) (who : Credentials)
    (tx : CatacombPairTransaction) (c : Written) (fs : FileSystem Name) : Prop where
  token : tx.token = t
  directory : tx.directory = root
  root_lt : root < g
  held : ∃ ref : Name → Ref, Held fs g who fun n => (c.file n).map fun b => (ref n, b)
  placed : Placed root t g m who tx fs

namespace Placed

/-- The effect leaves the three names of the transaction alone, and inodes below `old`. -/
def Aside (root : Ref) (t : Name) (old : Ref) : Effect Name → Prop
  | .allocate _ | .sync _ | .setRoot _ => True
  | .change d ch => ∀ x ∈ ch, (d = root → x.1 ≠ stageName t ∧ x.1 ≠ generationName t ∧
      x.1 ≠ recoveryName t) ∧ ∀ r, x.2 = some r → old ≤ r
  | .write q _ | .chmod q _ => old ≤ q

lemma lookup_aside (hroot : root < fs.next) (he : Aside root t old e)
    (hn : n = stageName t ∨ n = generationName t) :
    (e.run fs).lookup root n = fs.lookup root n := by
  cases e with
  | allocate a => rw [lookup_allocate, if_neg (Nat.ne_of_lt hroot)]
  | change d ch =>
    refine lookup_change_of_notMem ?_
    rintro rfl x hx rfl
    rcases hn with hn | hn
    · exact ((he x hx).1 rfl).1 hn
    · exact ((he x hx).1 rfl).2.1 hn
  | sync r => exact lookup_sync
  | _ => rfl

variable (h : Placed root t g m who tx fs) (hroot : root < fs.next)

include h hroot

lemma run_aside (hm : tx.recoveryReserved = true → m < old) (he : Aside root t old e) :
    Placed root t g m who tx (e.run fs) where
  staged hr := by
    rw [lookup_aside hroot he (.inl rfl), lookup_aside hroot he (.inr rfl)]
    exact h.staged hr
  renamed hr := by
    constructor
    · refine (h.renamed hr).1.run (Nat.ne_of_lt hroot) ?_
      rintro ch rfl x hx
      exact ((he x hx).1 rfl).2.1
    · refine (h.renamed hr).2.run (Nat.ne_of_lt hroot) ?_
      rintro ch rfl x hx
      exact ((he x hx).1 rfl).1
  reserved hr := by
    obtain ⟨hren, hpin⟩ := h.reserved hr
    refine ⟨hren, hpin.run ?_⟩
    cases e with
    | change d ch =>
      refine fun x hx => ⟨fun hd => ((he x hx).1 hd).2.2, fun hx' => ?_⟩
      exact Nat.not_le.mpr (hm hr) ((he x hx).2 m hx')
    | write q b | chmod q m' =>
      rintro rfl
      exact Nat.not_le.mpr (hm hr) he
    | _ => trivial

lemma runAll_aside (hm : tx.recoveryReserved = true → m < old) (he : ∀ e ∈ es, Aside root t old e) :
    Placed root t g m who tx (fs.runAll es) := by
  induction es generalizing fs with
  | nil => exact h
  | cons e es ih =>
    exact ih (h.run_aside hroot hm (he e (by simp)))
      (Nat.lt_of_lt_of_le hroot (next_le_run e)) fun e' he' => he e' (by simp [he'])

lemma runAll (he : ∀ e ∈ es, Aside root t fs.next e) : Placed root t g m who tx (fs.runAll es) :=
  h.runAll_aside hroot (fun hr => (h.reserved hr).2.lt) he

end Placed

/-- The stage `g` has taken the name of its generation, or had it already. -/
def Renamed (root : Ref) (t : Name) (g : Ref) (fs fs' : FileSystem Name) : Prop :=
  fs.lookup root (stageName t) = some g ∧ (fs.lookup root (generationName t) = some g ∧ fs' = fs ∨
      fs' = (Effect.change root [(stageName t, none), (generationName t, some g)]).run fs)

section

variable {fs' : FileSystem Name} (h : Renamed root t g fs fs')

include h

lemma Renamed.lookup : fs'.lookup root (generationName t) = some g := by
  obtain ⟨-, ⟨hg, rfl⟩ | rfl⟩ := h
  · exact hg
  · rw [lookup_change_two, if_pos ⟨rfl, rfl⟩]

lemma Renamed.next : fs'.next = fs.next := by
  obtain ⟨-, ⟨-, rfl⟩ | rfl⟩ := h <;> rfl

end

namespace Prepared

variable {fs0 : FileSystem Name} {c} {c' : Written}

variable (h : Prepared root t g m who tx c fs)

include h

lemma stands : ∃ k : Artifact, tx.writeDirectory = k.name t ∧ Stands fs root (k.name t) g := by
  obtain ⟨ref, hheld⟩ := h.held
  have hk : fs.kind g = .directory := by
    rw [kind, hheld.attributes]
    rfl
  unfold writeDirectory
  rw [h.token]
  cases hr : tx.generationRenamed with
  | true => exact ⟨.generation, rfl, (h.placed.renamed hr).1.lookup, hk⟩
  | false => exact ⟨.stage, rfl, (h.placed.staged hr).1, hk⟩

lemma lt : g < fs.next := by
  obtain ⟨ref, hheld⟩ := h.held
  exact hheld.lt

lemma write (hb : fs.Bounded) (next : TransactionState)
    (hn : c.file n = none) (hc : ∀ m, c'.file m = if m = n then some b else c.file m) :
    Prepared root t g m who { tx with state := next } c'
      (fs.runAll (blobEffects fs who g n b ++ [.sync g])) := by
  obtain ⟨ref, hheld⟩ := h.held
  have hroot : g ≠ root := Nat.ne_of_gt h.root_lt
  refine ⟨h.token, h.directory, h.root_lt, ?_, ?_⟩
  · refine ⟨Function.update ref n fs.next, ?_⟩
    have hwrite := hheld.write hb (n := n) (by rw [hn]; rfl) b
    refine (congrArg _ (funext fun m => ?_)).mp hwrite
    by_cases hm : m = n
    · subst hm
      simp [hc]
    · simp [hc, hm]
  · have haside : ∀ e ∈ blobEffects fs who g n b ++ [.sync g], Placed.Aside root t fs.next e := by
      simp [blobEffects, Placed.Aside, hroot]
    have hplaced := h.placed.runAll (Nat.lt_trans h.root_lt h.lt) haside
    exact ⟨hplaced.staged, hplaced.renamed, hplaced.reserved⟩

lemma rename (hr : tx.generationRenamed = false) :
    Prepared root t g m who { tx with generationRenamed := true } c
      (fs.runAll [.change root [(stageName t, none), (generationName t, some g)], .sync root]) := by
  obtain ⟨ref, hheld⟩ := h.held
  have hroot : root ≠ g := Nat.ne_of_lt h.root_lt
  have havoids : ∀ e ∈ [Effect.change root [(stageName t, none), (generationName t, some g)],
      .sync root], Held.Avoids g fs.next e := by
    simp only [List.mem_cons, List.not_mem_nil, or_false]
    rintro e (rfl | rfl)
    · refine ⟨hroot, fun x hx r hr => .inl ?_⟩
      rcases List.mem_pair.mp hx with rfl | rfl
      · cases hr
      · cases hr
        rfl
    · trivial
  refine ⟨h.token, h.directory, h.root_lt, ⟨ref, hheld.runAll havoids⟩,
    fun hr' => ?_, fun _ => ⟨?_, ?_⟩, fun hres => ?_⟩
  · cases hr'
  · exact pinnedEntry_of_lookup (by simp [lookup_change_two])
  · exact pinnedEntry_of_lookup (by simp [lookup_change_two])
  have hren := (h.placed.reserved hres).1
  rw [hr] at hren
  cases hren

lemma renamed (hr : tx.generationRenamed = false) {q : Ref} {fs' : FileSystem Name}
    (h' : Renamed root t q fs fs') :
    Prepared root t g m who { tx with generationRenamed := true } c
      ((Effect.sync root).run fs') := by
  obtain ⟨hstage, hgen⟩ := h.placed.staged hr
  obtain ⟨hl, ⟨hg, -⟩ | rfl⟩ := h'
  · rw [hgen] at hg
    cases hg
  · cases hstage.symm.trans hl
    exact h.rename hr

/-- What creating the reservation has done to the file system. -/
def reserveEffects (fs : FileSystem Name) (who : Credentials) (root : Ref) (t : Name) :
    List (Effect Name) :=
  [.allocate (privateFile who), .change root [(recoveryName t, some fs.next)],
    .chmod fs.next 0o600, .sync fs.next, .sync root]

lemma reserve (hb : fs.Bounded) (hr : tx.generationRenamed = true) :
    Prepared root t g fs.next who { tx with recoveryReserved := true } c
      (fs.runAll (reserveEffects fs who root t)) := by
  obtain ⟨ref, hheld⟩ := h.held
  have hroot : root ≠ g := Nat.ne_of_lt h.root_lt
  have hlt : root < fs.next := Nat.lt_trans h.root_lt h.lt
  have hname : ∀ n, n ≠ recoveryName t → ∀ ch, .change root ch ∈ reserveEffects fs who root t →
      ∀ x ∈ ch, x.1 ≠ n := by
    intro n hn ch hch x hx
    simp [reserveEffects] at hch
    subst hch
    cases List.mem_singleton.mp hx
    exact hn.symm
  refine ⟨h.token, h.directory, h.root_lt, ⟨ref, hheld.runAll ?_⟩,
    fun hr' => ?_, fun _ => ⟨?_, ?_⟩, fun _ => ⟨hr, ?_⟩⟩
  · simp [reserveEffects, Held.Avoids, hroot]
  · rw [hr] at hr'
    cases hr'
  · exact (h.placed.renamed hr).1.runAll hlt (hname _ (by simp))
  · exact (h.placed.renamed hr).2.runAll hlt (hname _ (by simp))
  · exact ((Member.create hb hlt (recoveryName t) (privateFile who)).chmod 0o600).pinned

end Prepared

/-! ### `reserve_recovery` under a regime -/

section Reserving

variable {R : Regime}

lemma acts_rename {α : Type} {rest : Unit → TransactionM α}
    {post : α → CatacombPairTransaction → World → Prop} (hw : R.inv w.fs)
    (hroot : w.fs.root = some root)
    (hrename : R.allows (.file (.rename [] (stageName tx.token) (generationName tx.token))))
    (hsync : R.allows (.file (.sync tx.directory)))
    (hrest : ∀ g fs1 w', Renamed root tx.token g w.fs fs1 →
      w'.fs = (Effect.sync tx.directory).run fs1 → R.inv w'.fs → Beyond w w' →
      MethodActs R (rest ()) { tx with generationRenamed := true } post w') :
    MethodActs R (do
      storeStep (unavailable (.rename [] (stageName tx.token) (generationName tx.token)))
      modify fun tx => { tx with generationRenamed := true }
      storeStep (unavailable (.sync tx.directory)) >>= rest) tx post w := by
  have hmoved : Acts R (unavailable (.rename [] (stageName tx.token) (generationName tx.token)))
      (fun _ w' => ∃ g, Renamed root tx.token g w.fs w'.fs) w := by
    refine acts_unavailable hw hrename fun order v es hm h => ?_
    obtain ⟨d, g, hd, hl, hes⟩ := meaning_rename hm
    obtain rfl := (eq_of_directoryAt_nil hroot hd).1
    rcases hes with ⟨hg, rfl⟩ | ⟨-, rfl⟩
    · exact ⟨g, hl, .inl ⟨hg, rfl⟩⟩
    · exact ⟨g, hl, .inr rfl⟩
  refine hmoved.storeStep.bind ?_
  rintro _ _ w1 hw1 hb1 - ⟨rfl, g, h1⟩
  refine modify_bind ⟨rfl, rfl, id, fun _ => rfl⟩ ?_
  refine (acts_sync hw1 hsync).storeStep.bind ?_
  rintro _ _ w2 hw2 hb2 - ⟨rfl, h2⟩
  exact hrest g w1.fs w2 h1 h2 hw2 (hb1.trans hb2)

/-- The regime allows `reserve_recovery` of the token `t`. -/
structure Regime.Reserves (R : Regime) (root : Ref) (t : Name) : Prop where
  root_eq : ∀ fs, R.inv fs → fs.root = some root
  rename : R.allows (.file (.rename [] (stageName t) (generationName t)))
  create : R.allows (.file (.createFile [] (recoveryName t) 0o600))
  chmod : ∀ fs, R.inv fs → R.allows (.file (.setPermissions fs.next 0o600))
  sync : ∀ r, R.allows (.file (.sync r))

/-- `reserve_recovery` under a regime: what its success has done to the store directory. -/
lemma acts_reserveRecovery_of (hw : R.inv w.fs)
    (hR : tx.recoveryReserved = false → R.Reserves root tx.token) :
    MethodActs R reserveRecovery tx (fun _ tx' w' =>
      tx' = { tx with generationRenamed := true, recoveryReserved := true } ∧
        tx.recoveryReserved = false ∧ ∃ g fs1 fs2, Renamed root tx.token g w.fs fs1 ∧
          fs2 = (Effect.sync tx.directory).run fs1 ∧ fs2.Bounded ∧ fs2.kind root = .directory ∧
          w'.fs = (Effect.sync tx.directory).run (fs2.runAll [.allocate (privateFile w.who),
            .change root [(recoveryName tx.token, some fs2.next)], .chmod fs2.next 0o600,
            .sync fs2.next])) w := by
  refine get_bind ?_
  split
  · exact MethodActs.throw hw _
  next hstate =>
  have hres : tx.recoveryReserved = false := by
    simp only [Bool.or_eq_true, not_or, Bool.not_eq_true] at hstate
    exact hstate.2
  have hR := hR hres
  refine acts_rename hw (hR.root_eq _ hw) hR.rename (hR.sync _) fun g fs1 w2 h1 h2 hw2 hb2 => ?_
  have hcreate : Acts R (unavailable (.createFile [] (recoveryName tx.token) 0o600))
      (fun (m : Ref) w' => m = w2.fs.next ∧ w2.fs.kind root = .directory ∧
        w'.fs = w2.fs.runAll [.allocate (privateFile w.who),
          .change root [(recoveryName tx.token, some w2.fs.next)]]) w2 := by
    refine acts_unavailable hw2 hR.create fun order v es hm h => ?_
    obtain ⟨d, hd, -, rfl, rfl⟩ := meaning_createFile hm
    obtain ⟨rfl, hkind⟩ := eq_of_directoryAt_nil (hR.root_eq _ hw2) hd
    rw [World.withFs_fs, hb2.1]
    exact ⟨rfl, hkind, rfl⟩
  refine hcreate.storeStep.bind ?_
  rintro m _ w3 hw3 - - ⟨rfl, rfl, hkind, h3⟩
  refine modify_bind ⟨rfl, rfl, fun _ => rfl, id⟩ ?_
  refine (acts_setPermissions hw3 (hR.chmod _ hw2)).storeStep.bind ?_
  rintro _ _ w4 hw4 - - ⟨rfl, h4⟩
  refine (acts_sync hw4 (hR.sync _)).storeStep.bind ?_
  rintro _ _ w5 hw5 - - ⟨rfl, h5⟩
  refine (acts_sync hw5 (hR.sync _)).storeStep.mono ?_
  rintro _ _ w6 - - - ⟨rfl, h6⟩
  refine ⟨rfl, hres, g, fs1, w2.fs, h1, h2, w2.bounded, hkind, ?_⟩
  rw [h6, h5, h4, h3]
  rfl

end Reserving

/-! ### The methods -/

variable {fs0 : FileSystem Name} {c} {next : TransactionState}

variable (hw : Working fs0 root t w.fs) {c' : Written}

include hw

lemma acts_writeMember (hp : Prepared root t g m w.who tx c w.fs)
    (hn : c.file n = none) (hc : ∀ m, c'.file m = if m = n then some b else c.file m) :
    MethodActs (area fs0 root t) (writeMember n b next) tx
      (fun _ tx' w' => tx' = { tx with state := next } ∧
        Prepared root t g m w.who tx' c' w'.fs) w := by
  obtain ⟨k, hk, hstands⟩ := hp.stands
  refine get_bind ?_
  rw [hk]
  refine (acts_writeNewBlob hw (hstands.directoryAt hw.root_eq hw.root_kind)
    (.inr ⟨k, rfl⟩ : OwnPlace _ _ _) (area_writes hw.le_next) b).storeStep.bind ?_
  rintro _ _ w1 hw1 hb1 - ⟨rfl, -, h1⟩
  have hstands1 : Stands w1.fs root (k.name t) g := by
    have hg : g ≠ root := Nat.ne_of_gt hp.root_lt
    have hnext : root ≠ w.fs.next := Nat.ne_of_lt (Nat.lt_trans hp.root_lt hp.lt)
    have hgnext : g ≠ w.fs.next := Nat.ne_of_lt hp.lt
    constructor
    · rw [h1, ← hstands.lookup]
      simp [runAll, blobEffects, lookup_change_one, lookup_allocate, hg.symm, hnext]
    · rw [h1, ← hstands.kind]
      simp [runAll, blobEffects, kind, Effect.run, hgnext]
  refine (acts_syncDirectory hw1 hstands1).storeStep.bind ?_
  rintro _ _ w2 hw2 hb2 - ⟨rfl, h2⟩
  refine MethodActs.modify hw2 ⟨rfl, rfl, id, id⟩ ⟨rfl, ?_⟩
  have hfs : w2.fs = w.fs.runAll (blobEffects w.fs w.who g n b ++ [.sync g]) := by
    rw [h2, h1]
    rfl
  rw [hfs]
  exact hp.write w.bounded next hn hc

/-- The transaction has what its state says, all of it valid. -/
structure Ready (root : Ref) (t : Name) (g m : Ref) (who : Credentials)
    (tx : CatacombPairTransaction) (c : Written) (fs : FileSystem Name) : Prop where
  prepared : Prepared root t g m who tx c fs
  renamed : tx.generationRenamed = tx.recoveryReserved
  reached : c.Reached tx.state
  valid : c.Valid

variable (hp : Ready root t g m w.who tx c w.fs)

include hp

/-- The part the three `write_*` methods share. -/
lemma acts_writeChecked {check : Outcome Unit}
    (hn : c.file n = none) (hc : ∀ m, c'.file m = if m = n then some b else c.file m)
    (hready : check = .ok () → c'.Reached next ∧ c'.Valid) :
    MethodActs (area fs0 root t) (ofExcept check >>= fun _ => writeMember n b next) tx
      (fun _ tx' w' => tx' = { tx with state := next } ∧ Ready root t g m w.who tx' c' w'.fs) w := by
  refine (MethodActs.ofExcept hw fun _ hv => ⟨rfl, rfl, hv⟩ : MethodActs (area fs0 root t) _ tx
    (fun _ tx' w' => tx = tx' ∧ w = w' ∧ check = .ok ()) w).bind ?_
  rintro _ _ _ - - - ⟨rfl, rfl, hv⟩
  refine (acts_writeMember hw hp.prepared hn hc).mono ?_
  rintro _ _ w1 - - - ⟨rfl, hp1⟩
  exact ⟨rfl, hp1, hp.renamed, (hready hv).1, (hready hv).2⟩

lemma acts_writeMetadata (metadata : List UInt8) :
    MethodActs (area fs0 root t) (writeMetadata metadata) tx
      (fun _ tx' w' => tx' = { tx with state := .metadataDurable } ∧
        Ready root t g m w.who tx' { c with metadata := some metadata } w'.fs) w := by
  refine get_bind ?_
  split
  · exact MethodActs.throw hw _
  next hstate =>
  have hempty : c = {} := by
    have hs : tx.state = .empty := by simp at hstate; exact hstate.1
    have hreached := hp.reached
    rwa [hs] at hreached
  subst hempty
  refine acts_writeChecked hw hp rfl (Written.file_metadata _ _) fun hv => ?_
  refine ⟨⟨rfl, rfl⟩, ⟨fun b hb => ?_, hp.valid.user, hp.valid.master⟩⟩
  cases hb
  exact hv

lemma acts_writeUser (user : List UInt8) : MethodActs (area fs0 root t) (writeUser user) tx
      (fun _ tx' w' => tx' = { tx with state := .userDurable } ∧
        Ready root t g m w.who tx' { c with user := some user } w'.fs) w := by
  refine get_bind ?_
  split
  · exact MethodActs.throw hw _
  next hstate =>
  have hnone : c.user = none ∧ c.master = none := by
    have hreached := hp.reached
    cases hs : tx.state with
    | empty =>
      rw [hs] at hreached
      cases hreached
      exact ⟨rfl, rfl⟩
    | metadataDurable => rwa [hs] at hreached
    | userDurable | pairDurable => simp [hs] at hstate
  refine acts_writeChecked hw hp hnone.1 (Written.file_user _ _) fun hv => ?_
  refine ⟨⟨rfl, hnone.2⟩, ⟨hp.valid.metadata, fun b hb => ?_, hp.valid.master⟩⟩
  cases hb
  exact hv

lemma acts_writeMaster (master : List UInt8) : MethodActs (area fs0 root t) (writeMaster master) tx
      (fun _ tx' w' => tx' = { tx with state := .pairDurable } ∧
        Ready root t g m w.who tx' { c with master := some master } w'.fs) w := by
  refine get_bind ?_
  split
  · exact MethodActs.throw hw _
  next hstate =>
  have huser : c.user.isSome = true ∧ c.master = none := by
    have hs : tx.state = .userDurable := by simpa using hstate
    have hreached := hp.reached
    rwa [hs] at hreached
  refine acts_writeChecked hw hp huser.2 (Written.file_master _ _) fun hv => ?_
  refine ⟨⟨huser.1, rfl⟩, ⟨hp.valid.metadata, hp.valid.user, fun b hb => ?_⟩⟩
  cases hb
  exact hv

lemma acts_reserveRecovery : MethodActs (area fs0 root t) reserveRecovery tx (fun _ tx' w' =>
        tx' = { tx with generationRenamed := true, recoveryReserved := true } ∧
        ∃ m', Ready root t g m' w.who tx' c w'.fs) w := by
  obtain rfl := hp.prepared.token
  obtain rfl := hp.prepared.directory
  have hR : (area fs0 tx.directory tx.token).Reserves tx.directory tx.token :=
    ⟨fun _ h => h.root_eq, ⟨.inl ⟨rfl, .stage, rfl⟩, .inl ⟨rfl, .generation, rfl⟩⟩,
      .inl ⟨rfl, .recovery, rfl⟩, fun _ h => h.le_next, fun _ => trivial⟩
  refine (acts_reserveRecovery_of hw fun _ => hR).mono ?_
  rintro _ _ w' - - - ⟨rfl, hres, _, fs1, _, h1, rfl, hb, -, hfs⟩
  refine ⟨rfl, ((Effect.sync tx.directory).run fs1).next, ?_, rfl, hp.reached, hp.valid⟩
  rw [hfs]
  exact (hp.prepared.renamed (by rw [hp.renamed, hres]) h1).reserve hb rfl

end T1Bridge.Store
