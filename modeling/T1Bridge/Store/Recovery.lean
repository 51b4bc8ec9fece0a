import T1Bridge.Store.Begin
import T1Bridge.Store.Prune

/-! # What `recover` removes

`recover` removes the names of tokens that are neither active nor reserved (`Stale`).  `Swept`
says that a file system differs from an earlier one by such removals only: what `load` returns,
the active generation and the reserved ones are as before, wherever `recover` is stopped. -/

namespace T1Bridge.Store

open FileSystem CatacombPairTransaction

variable {n : Name} {g : Name} {ε : Type} {root : Ref} {w : World} {R : Regime} {uid : ℕ}

/-- A name `recover` removes. -/
def Stale (active : Option Name) (tokens : List Name) (n : Name) : Prop :=
  active ≠ some n ∧
    ∃ (k : Artifact) (u : Name), n = k.name u ∧ k ≠ .recovery ∧ (k = .markerTemporary ∨ u ∉ tokens)

/-- The regime allows removing these names and what is below them. -/
structure Regime.Sweeps (R : Regime) (stale : Name → Prop) : Prop where
  file : ∀ n, stale n → R.allows (.file (.removeFile [] n))
  member : ∀ n m, stale n → isPairFile m = true → R.allows (.file (.removeFile [n] m))
  directory : ∀ n, stale n → R.allows (.file (.removeDirectory [] n))

section Recover

variable {active : Option Name} {tokens : List Name}

lemma isMarkerTemporaryName_ok (h : isMarkerTemporaryName n = true) :
    ∃ u, n = markerTemporaryName u := by
  unfold isMarkerTemporaryName at h
  rw [Option.any_eq_true] at h
  obtain ⟨u, hu, -⟩ := h
  obtain ⟨rest, hrest, hu⟩ := Option.bind_eq_some_iff.mp hu
  obtain ⟨s, rfl, hs⟩ := List.dropSuffix?_eq_some_iff.mp hu
  refine ⟨u, ?_⟩
  rw [eq_of_dropPrefix hrest, eq_of_beq hs]
  rfl

lemma keeps_recoverEntry (hR : R.Sweeps (Stale active tokens)) (n : Name) :
    Keeps R (recoverEntry active tokens n) := by
  refine Keeps.ite (Keeps.throw _) ?_
  split
  · exact Keeps.pure ()
  next hkept =>
  simp only [Bool.or_eq_true, beq_iff_eq, not_or] at hkept
  have hgeneration : ∀ (k : Artifact) (u : Name), n = k.name u → k ≠ .recovery → u ∉ tokens →
      Keeps R (removePrivateGeneration n) := by
    intro k u hn hk hu
    have hstale : Stale active tokens n := ⟨hkept.2, k, u, hn, hk, .inr hu⟩
    exact keeps_removePrivateGeneration (fun m hm => hR.member n m hstale hm)
      (hR.directory n hstale)
  split
  · next token htoken =>
    have hn := eq_of_dropPrefix (Option.filter_eq_some_iff.mp htoken).1
    split
    · exact Keeps.pure ()
    · next hu => exact hgeneration .stage token hn (by decide) (by simpa using hu)
  split
  · next token htoken =>
    have hn := eq_of_dropPrefix (Option.filter_eq_some_iff.mp htoken).1
    split
    · exact Keeps.pure ()
    · next hu => exact hgeneration .generation token hn (by decide) (by simpa using hu)
  · split
    · next htemporary =>
      obtain ⟨u, hn⟩ := isMarkerTemporaryName_ok htemporary
      exact keeps_removePrivateFile
        (hR.file n ⟨hkept.2, .markerTemporary, u, hn, by decide, .inl rfl⟩)
    · exact Keeps.pure ()

lemma keeps_recoverEntries (hR : R.Sweeps (Stale active tokens)) (names : List Name) :
    Keeps R (recoverEntries active tokens names) := by
  induction names with
  | nil => exact Keeps.pure ()
  | cons n names ih => exact (keeps_recoverEntry hR n).bind fun _ => ih

/-- The tokens of a listing have every reservation of the directory. -/
lemma acts_recoveryTokens (hw : R.inv w.fs) (hd : w.fs.directoryAt [] = .ok root) :
    Acts R recoveryTokens (fun tokens w' => w = w' ∧
      ∃ names : List Name, names.Nodup ∧ (∀ n, n ∈ names ↔ ∃ r, w.fs.lookup root n = some r) ∧
        ∃ found, tokensView w.fs w.who.uid names = .ok found ∧ tokens = sortNames found) w := by
  refine (acts_readDirectory hw hd).bind ?_
  rintro names _ - - ⟨rfl, hnodup, hnames⟩
  refine Acts.reads_bind (reads_recoveryTokensOf names) hw fun found hfound => ?_
  exact Acts.pure hw ⟨rfl, names, hnodup, hnames, found, hfound, rfl⟩

/-- What `recover` goes by: a marker that leads to a pair, or no marker. -/
def Sound (fs : FileSystem Name) (uid : ℕ) : Option Name → Prop
  | some g => markerView fs uid = .ok g ∧ ∃ pair, loadView fs uid = .ok pair
  | none => markerView fs uid = .error .missingPair

/-- The tokens have every reservation of the directory `root`. -/
def Lists (fs : FileSystem Name) (root : Ref) (tokens : List Name) : Prop :=
  ∀ t r, fs.lookup root (recoveryName t) = some r → t ∈ tokens

lemma lists_of_tokensView {fs : FileSystem Name} {names found : List Name}
    (hnames : ∀ n, n ∈ names ↔ ∃ r, fs.lookup root n = some r)
    (hfound : tokensView fs uid names = .ok found) : Lists fs root (sortNames found) := by
  intro t r hr
  rw [sortNames, List.mem_mergeSort, (tokensView_ok hfound).1, List.mem_filterMap]
  exact ⟨recoveryName t, (hnames _).mpr ⟨r, hr⟩, dropPrefix_self _ _⟩

/-- `recover` under a regime that allows removing what is stale. -/
lemma acts_recover (hw : R.inv w.fs) (hsync : ∀ r, R.allows (.file (.sync r)))
    (hR : ∀ root active tokens, w.fs.directoryAt [] = .ok root → Sound w.fs w.who.uid active →
      Lists w.fs root tokens → R.Sweeps (Stale active tokens)) :
    Acts R recover (fun _ _ => True) w := by
  refine Acts.reads_bind reads_openExistingDirectory hw fun root hstore => ?_
  obtain ⟨hroot, -⟩ := storeView_ok hstore
  refine (acts_sync hw (hsync root)).bind fun _ w1 hw1 hb1 hfs1 => ?_
  have halike : Alike w.who.uid w.fs w1.fs := by
    rw [hfs1]
    exact alike_sync w.bounded root _
  refine Acts.reads_bind reads_activeGeneration hw1 fun active hactive => ?_
  replace hactive := activeView_ok hactive
  rw [hb1.1, halike.markerView] at hactive
  have hd1 : w1.fs.directoryAt [] = .ok root := by rw [halike.directoryAt, hroot]
  have hsweep : Sound w.fs w.who.uid active → Acts R (do
      let names ← unavailable (.readDirectory [])
      let tokens ← recoveryTokens
      recoverEntries active tokens (sortNames names)
      unavailable (.sync root)) (fun _ _ => True) w1 := by
    intro hsound
    refine (acts_readDirectory hw1 hd1).bind ?_
    rintro names _ - - ⟨rfl, -, -⟩
    refine (acts_recoveryTokens hw1 hd1).bind ?_
    rintro tokens _ - - ⟨rfl, listed, -, hlisted, found, hfound, rfl⟩
    have hlists : Lists w.fs root (sortNames found) := by
      intro t r hr
      rw [← halike.lookup] at hr
      exact lists_of_tokensView hlisted hfound t r hr
    refine (keeps_recoverEntries (hR root active _ hroot hsound hlists) _ w1 hw1).bind
      fun _ w2 hw2 _ _ => ?_
    exact (acts_sync hw2 (hsync root)).mono fun _ _ _ _ _ => trivial
  cases active with
  | none => exact hsweep hactive
  | some g =>
    refine Acts.reads_bind reads_load hw1 fun pair hpair => ?_
    rw [hb1.1, halike.loadView] at hpair
    exact hsweep ⟨hactive, pair, hpair⟩

end Recover

/-- A candidate is the only reserved token, and its pair is what the store holds under it. -/
lemma acts_recoveryCandidate (hw : R.inv w.fs)
    (tokens : List Name) : Acts R (recoveryCandidate tokens : RecoveryM ε _)
      (fun r w' => w = w' ∧ ∀ token pair, r = .ok (token, pair) →
        tokens = [token] ∧ pairView w.fs w.who.uid (generationName token) = .ok pair) w := by
  match tokens with
  | [] => exact Acts.pure hw ⟨rfl, nofun⟩
  | _ :: _ :: _ => exact Acts.pure hw ⟨rfl, nofun⟩
  | [token] =>
    have hlook : ∀ path : List Name, Acts R (ExceptT.lift (call (.symlinkMetadata path)) :
        RecoveryM ε _) (fun _ w' => w = w') w := fun path =>
      Acts.lift (wp_look (looks_symlinkMetadata path) ⟨hw, R.look _ trivial⟩
        ⟨hw, Beyond.refl w, rfl⟩ fun _ => ⟨hw, Beyond.refl w, rfl⟩)
    refine (hlook [stageName token]).bind ?_
    rintro stage _ - - rfl
    refine (hlook [generationName token]).bind ?_
    rintro generation _ - - rfl
    split
    · exact Acts.pure hw ⟨rfl, nofun⟩
    have hpair : Acts R (ExceptT.lift (readPair (generationName token)).run : RecoveryM ε _)
        (fun r w' => w = w' ∧ ∀ pair, r = .ok pair →
          pairView w.fs w.who.uid (generationName token) = .ok pair) w := by
      refine Acts.lift ((reads_readPair _).wp (fun op hop => ⟨hw, R.look op hop⟩)
        ⟨hw, Beyond.refl w, rfl, fun _ h => h⟩ ?_)
      rintro - r (rfl | rfl) <;> exact ⟨hw, Beyond.refl w, rfl, nofun⟩
    refine hpair.bind ?_
    rintro r _ - - ⟨rfl, h⟩
    cases r with
    | ok pair =>
      refine Acts.pure hw ⟨rfl, fun token' pair' heq => ?_⟩
      cases heq
      exact ⟨rfl, h pair rfl⟩
    | error e =>
      cases e <;> first
        | exact Acts.pure hw ⟨rfl, nofun⟩
        | exact Acts.throw hw _

/-- What the validator gets to see: the pair of the only reserved token, after the directory was
made durable. -/
lemma acts_findCandidate (hw : R.inv w.fs)
    (hsync : ∀ r, R.allows (.file (.sync r))) : Acts R (findCandidate : RecoveryM ε _)
      (fun r w' => ∀ directory token pair, r = .ok (directory, token, pair) →
        w.fs.directoryAt [] = .ok directory ∧ w'.fs = (Effect.sync directory).run w.fs ∧
          Lists w'.fs directory [token] ∧
          pairView w'.fs w'.who.uid (generationName token) = .ok pair) w := by
  refine (Acts.reads reads_openExistingDirectory hw fun root hroot => ⟨rfl, (storeView_ok hroot).1⟩ :
    Acts R _ (fun root w' => w = w' ∧ w.fs.directoryAt [] = .ok root) w).caught.bind ?_
  rintro (e | directory) w1 hw1 - h1
  · cases e <;> first
      | exact Acts.pure hw1 nofun
      | exact Acts.throw hw1 _
  obtain ⟨rfl, hdirectory⟩ := h1 directory rfl
  refine ((acts_sync hw (hsync directory)).mapError _).bind fun _ w2 hw2 _ hfs2 => ?_
  have hdirectory2 : w2.fs.directoryAt [] = .ok directory := by
    rw [hfs2, (alike_sync w.bounded directory w.who.uid).directoryAt, hdirectory]
  refine (acts_recoveryTokens hw2 hdirectory2).caught.bind ?_
  rintro (e | tokens) w3 hw3 - h3
  · cases e <;> first
      | exact Acts.pure hw3 nofun
      | exact Acts.throw hw3 _
  obtain ⟨rfl, names, -, hnames, found, hfound, rfl⟩ := h3 tokens rfl
  refine (acts_recoveryCandidate hw2 _).bind ?_
  rintro (outcome | ⟨token, pair⟩) _ - - ⟨rfl, hcandidate⟩
  · exact Acts.pure hw2 nofun
  refine Acts.pure hw2 fun directory' token' pair' heq => ?_
  cases heq
  obtain ⟨htoken, hpair⟩ := hcandidate token pair rfl
  exact ⟨hdirectory, hfs2, htoken ▸ lists_of_tokensView hnames hfound, hpair⟩

/-! ### Removing names -/

/-- A dead name of `root`, or the name of a pair file below one. -/
def BelowDead (root : Ref) (dead : Name → Prop) (a : FileSystem Name) (d : Ref) (n : Name) : Prop :=
  d = root ∧ dead n ∨ isPairFile n = true ∧ ∃ x, dead x ∧ a.lookup root x = some d

/-- The file system `b` is `a` without some of the `dead` names of `root` and of the pair files
below them. -/
structure Swept (root : Ref) (dead : Name → Prop) (a b : FileSystem Name) : Prop where
  bounded : b.Bounded
  next : b.next = a.next
  prunes : Prunes a.next (BelowDead root dead a) a b

/-- Operations that remove dead names. -/
def SweepOp (dead : Name → Prop) : HostOp → Prop
  | .file (.removeFile parent n) =>
    parent = [] ∧ dead n ∨ ∃ x, parent = [x] ∧ dead x ∧ isPairFile n = true
  | .file (.removeDirectory parent n) => parent = [] ∧ dead n
  | .file (.sync _) => True
  | .file o => (HostOp.file o).IsLook
  | _ => True

namespace Swept

variable {dead : Name → Prop} {a b : FileSystem Name} {d : Ref}

lemma refl (hb : a.Bounded) : Swept root dead a a := ⟨hb, rfl, Prunes.refl hb⟩

lemma unlink (h : Swept root dead a b)
    (hb : ((Effect.change d [(n, none)]).run b).Bounded) (hn : BelowDead root dead a d n) :
    Swept root dead a ((Effect.change d [(n, none)]).run b) := by
  refine ⟨hb, h.next, h.prunes.run_change fun x hx => ?_⟩
  cases List.mem_singleton.mp hx
  exact ⟨.inr hn, nofun⟩

lemma fewer (h : Swept root dead a b) {d r : Ref} (hl : b.lookup d n = some r) :
    a.lookup d n = some r :=
  h.prunes.fewer d n r (h.next ▸ (h.bounded.lookup_lt hl).2) hl

lemma exec (h : Swept root dead a w.fs) (hroot : a.root = some root) {op : HostOp}
    (ho : SweepOp dead op) (c : Choice) : Swept root dead a (Host.exec c w op).2.fs := by
  have hroot' : w.fs.root = some root := h.prunes.root.trans hroot
  have hnil : ∀ d, w.fs.directoryAt [] = .ok d → d = root :=
    fun d hd => (eq_of_directoryAt_nil hroot' hd).1
  refine exec_keeps h ?_ ?_ c
  · rintro o rfl order v es hm
    have hbounded := (meaning_keeps hm w.bounded).1
    cases o with
    | removeFile parent n =>
      obtain ⟨d, r, hd, -, rfl⟩ := meaning_remove (.inl rfl) hm
      refine h.unlink hbounded ?_
      rcases ho with ⟨rfl, hn⟩ | ⟨x, rfl, hx, hn⟩
      · exact .inl ⟨hnil d hd, hn⟩
      · exact .inr ⟨hn, x, hx, h.fewer (lookup_of_walk_one hroot' (directoryAt_ok hd).1)⟩
    | removeDirectory parent n =>
      obtain ⟨d, r, hd, -, rfl⟩ := meaning_remove (.inr rfl) hm
      obtain ⟨rfl, hn⟩ := ho
      exact h.unlink hbounded (.inl ⟨hnil d hd, hn⟩)
    | sync r =>
      cases hm
      exact ⟨hbounded, h.next, h.prunes.run_sync r⟩
    | _ =>
      rw [meaning_look (by exact ho) hm]
      exact h
  · rintro r b b' rfl
    exact ho.elim

variable (h : Swept root dead a b)

include h

/-- The files of a generation that is not dead stay: no dead name leads to their directory. -/
lemma below (ha : a.Bounded) (ht : a.Tree)
    (hg : ¬ dead g) (hn : ¬ dead n) (hl : a.lookup root g = some d) (hk : a.kind d = .directory) :
    b.lookup d n = a.lookup d n := by
  refine h.prunes.outer d (ha.lookup_lt hl).2 n ?_
  rintro (hd | ⟨-, x, hx, hlx⟩)
  · exact hn hd.2
  · exact hg ((ht d hk root x root g hlx hl).2 ▸ hx)

lemma kept (hroot : a.root = some root) (hn : ¬ dead n)
    (hfile : isPairFile n = false) : b.lookup root n = a.lookup root n := by
  refine h.prunes.outer root (h.prunes.root_lt root hroot) n ?_
  rintro (hd | ⟨hp, -⟩)
  · exact hn hd.2
  · rw [hfile] at hp
    cases hp

lemma pairView_ok (ha : a.Bounded) (hroot : a.root = some root)
    (hk : a.kind root = .directory) (ht : a.Tree) (hg : ¬ dead g)
    (hgf : isPairFile g = false) (hfiles : ∀ n, isPairFile n = true → ¬ dead n)
    {pair : CatacombPair} (hp : pairView a uid g = .ok pair) : pairView b uid g = .ok pair :=
  pairView_of_prunes h.prunes ha h.bounded hroot hk (h.kept hroot hg hgf)
    (fun _ hl hkd n hn => h.below ha ht hg (hfiles n hn) hl hkd) hp

end Swept

/-! ### `recover` keeps what is loaded, active or reserved -/

/-- A name that `recover` can remove from this file system. -/
def Dead (fs : FileSystem Name) (uid : ℕ) (root : Ref) (n : Name) : Prop :=
  ∃ active tokens, Sound fs uid active ∧ Lists fs root tokens ∧ Stale active tokens n

variable {fs a b : FileSystem Name} {t : Name}

lemma Dead.artifact (h : Dead fs uid root n) : ∃ (k : Artifact) (u : Name), n = k.name u := by
  obtain ⟨_, _, -, -, -, k, u, hn, -⟩ := h
  exact ⟨k, u, hn⟩

lemma not_dead_activeMarker : ¬ Dead fs uid root activeMarker := by
  intro h
  obtain ⟨k, u, hn⟩ := h.artifact
  exact Artifact.name_ne_activeMarker hn.symm

lemma not_dead_pairFile (hn : isPairFile n = true) : ¬ Dead fs uid root n := by
  intro h
  obtain ⟨k, u, rfl⟩ := h.artifact
  simp [isPairFile] at hn

lemma not_dead_active (hg : markerView fs uid = .ok g) : ¬ Dead fs uid root g := by
  rintro ⟨active, _, hsound, -, hne, -⟩
  cases active with
  | none => cases hg.symm.trans hsound
  | some g' =>
    cases hg.symm.trans hsound.1
    exact hne rfl

lemma not_dead_reserved {r : Ref} (hr : fs.lookup root (recoveryName t) = some r) :
    ¬ Dead fs uid root (generationName t) := by
  rintro ⟨_, tokens, -, hlists, -, k, u, hn, -, hk⟩
  obtain ⟨rfl, rfl⟩ := Artifact.name_inj.mp hn
  rcases hk with hk | hk
  · cases hk
  · exact hk (hlists t r hr)

lemma isPairFile_generation (t : Name) : isPairFile (generationName t) = false := by
  simp [isPairFile]

lemma loadView_swept (h : Swept root (Dead a uid root) a b) (ha : a.Bounded) (ht : a.Tree)
    (hroot : a.root = some root) : loadView b uid = loadView a uid := by
  by_cases hs : ∃ active, Sound a uid active
  · obtain ⟨active, hsound⟩ := hs
    unfold loadView
    rw [storeView_of_prunes h.prunes uid]
    cases hstore : storeView a uid with
    | error e => rfl
    | ok r =>
      obtain ⟨hdir, -⟩ := storeView_ok hstore
      have hk := (eq_of_directoryAt_nil hroot hdir).2
      have hkept := h.kept hroot not_dead_activeMarker (by decide)
      cases active with
      | none =>
        -- no marker before, none afterwards
        have hmissing : markerView a uid = .error .missingPair := hsound
        rw [missing_of_prunes h.prunes ha hroot hk hkept hmissing, hmissing]
        rfl
      | some g =>
        obtain ⟨hm, pair, hpair⟩ := hsound
        obtain ⟨g', hm', hp⟩ := loadView_ok hpair
        cases hm.symm.trans hm'
        obtain ⟨t, -, rfl⟩ := isGenerationName_iff.mp (markerView_ok hm).choose_spec.2.2.2
        rw [markerView_of_prunes h.prunes ha h.bounded hroot hk hkept hm, hm]
        change pairView b uid _ = pairView a uid _
        rw [hp]
        exact h.pairView_ok ha hroot hk ht (not_dead_active hm) (isPairFile_generation t)
          (fun n hn => not_dead_pairFile hn) hp
  · have hno : ∀ d n, ¬ BelowDead root (Dead a uid root) a d n := by
      rintro d n (⟨-, active, _, hsound, -⟩ | ⟨-, _, ⟨active, _, hsound, -⟩, -⟩)
      · exact hs ⟨active, hsound⟩
      · exact hs ⟨active, hsound⟩
    have hagree : Agree a.next (BelowDead root (Dead a uid root) a) a b :=
      { h.prunes with
        inner := fun d n r hdn hl => by
          rcases hdn with hd | hown
          · exact absurd (h.next ▸ (h.bounded.lookup_lt hl).1) (Nat.not_lt.mpr hd)
          · exact (hno d n hown).elim
        vacant := fun d n hown => (hno d n hown).elim
        bound := fun d n r hl => ha.lookup_lt hl }
    exact (sees_of_agree hagree ha h.bounded uid).loadView (fun n _ d => hno d n)
      (fun d => hno d _) fun g _ d => hno d g

/-- What `recover` does to the file system `a`. -/
@[reducible] def sweeping (a : FileSystem Name) (uid : ℕ) (root : Ref) (hroot : a.root = some root) :
    Regime where
  inv := Swept root (Dead a uid root) a
  allows := SweepOp (Dead a uid root)
  look op h := by
    cases op with
    | file o => cases o <;> first | exact h | exact h.elim
    | _ => trivial
  stable _ _ c h ho := h.exec hroot ho c

lemma acts_recover_sweeping (hroot : w.fs.root = some root) :
    Acts (sweeping w.fs w.who.uid root hroot) recover (fun _ _ => True) w := by
  refine acts_recover (Swept.refl w.bounded) (fun _ => trivial) ?_
  intro root' active tokens hd hsound hlists
  obtain rfl := (eq_of_directoryAt_nil hroot hd).1
  have hdead : ∀ n, Stale active tokens n → Dead w.fs w.who.uid root' n :=
    fun n hn => ⟨active, tokens, hsound, hlists, hn⟩
  exact ⟨fun n hn => .inl ⟨rfl, hdead n hn⟩, fun n m hn hm => .inr ⟨n, rfl, hdead n hn, hm⟩,
    fun n hn => ⟨rfl, hdead n hn⟩⟩

/-- The generation `g` has the entry and the files it had. -/
def SameGeneration (root : Ref) (g : Name) (a b : FileSystem Name) : Prop :=
  b.lookup root g = a.lookup root g ∧
    ∀ d, a.lookup root g = some d → a.kind d = .directory → ∀ n, isPairFile n = true →
      b.lookup d n = a.lookup d n ∧ ∀ r, a.lookup d n = some r → b.bytes r = a.bytes r

lemma Swept.sameGeneration (h : Swept root (Dead a uid root) a b) (ha : a.Bounded) (ht : a.Tree)
    (hroot : a.root = some root) (hg : ¬ Dead a uid root (generationName t)) :
    SameGeneration root (generationName t) a b := by
  refine ⟨h.kept hroot hg (isPairFile_generation t), fun d hl hk n hn => ⟨?_, fun r hr => ?_⟩⟩
  · exact h.below ha ht hg (not_dead_pairFile hn) hl hk
  · exact h.prunes.bytes r (ha.lookup_lt hr).2

/-- Wherever `recover` is stopped, `load` returns what it returned, and neither the active nor a
reserved generation lost anything. -/
lemma recover_steps {p : HostProg (Outcome Unit)} {w' : World}
    (hroot : w.fs.root = some root) (ht : w.fs.Tree) (h : Prog.Steps Host recover.run w p w') :
    loadView w'.fs w.who.uid = loadView w.fs w.who.uid ∧
      (∀ g, markerView w.fs w.who.uid = .ok g → SameGeneration root g w.fs w'.fs) ∧
      ∀ t r, w.fs.lookup root (recoveryName t) = some r →
        SameGeneration root (generationName t) w.fs w'.fs := by
  have hswept : Swept root (Dead w.fs w.who.uid root) w.fs w'.fs :=
    h.invariant_of_wp (Prog.wp_weaken (fun _ _ h => h.1) (fun _ _ h => h.1)
      (acts_recover_sweeping hroot))
  refine ⟨loadView_swept hswept w.bounded ht hroot, fun g hg => ?_, fun t r hr => ?_⟩
  · obtain ⟨_, -, -, -, hname⟩ := markerView_ok hg
    obtain ⟨t, -, rfl⟩ := isGenerationName_iff.mp hname
    exact hswept.sameGeneration w.bounded ht hroot (not_dead_active hg)
  · exact hswept.sameGeneration w.bounded ht hroot (not_dead_reserved hr)

end T1Bridge.Store
