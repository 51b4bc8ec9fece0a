import T1Bridge.Lib.Pinned
import T1Bridge.Store.Regime

/-! # The area of a transaction

A transaction works under the names of its token and in the directories it made there.
`Working fs0 root t fs` says that everything else of `fs`, and of what a crash makes of it, is
as it was in `fs0` when the transaction began.  `OwnOp` are the operations that stay in the
area, and `Working.exec` says that they keep `Working`. -/

namespace T1Bridge.Store

open FileSystem

variable {fs : FileSystem Name} {n : Name} {op : HostOp} {r : Ref} {root : Ref} {t : Name}

lemma walk_one (hroot : fs.root = some root) (hk : fs.kind root = .directory) (n : Name) :
    fs.walk [n] = match fs.lookup root n with
      | some r => .ok r
      | none => .error .notFound := by
  unfold walk walkFrom
  rw [hroot]
  dsimp only
  rw [if_pos hk]
  cases fs.lookup root n <;> rfl

lemma eq_of_directoryAt_nil {root d : Ref} (hroot : fs.root = some root)
    (h : fs.directoryAt [] = .ok d) : d = root ∧ fs.kind root = .directory := by
  obtain ⟨hwalk, hk⟩ := directoryAt_ok h
  unfold walk at hwalk
  rw [hroot] at hwalk
  cases hwalk
  exact ⟨rfl, hk⟩

lemma directoryAt_nil (hroot : fs.root = some root)
    (hk : fs.kind root = .directory) : fs.directoryAt [] = .ok root := by
  unfold directoryAt walk walkFrom
  rw [hroot]
  dsimp only
  rw [if_pos hk]

/-- The transaction of `t` works in the store directory and has left the rest of `fs0` alone. -/
structure Working (fs0 : FileSystem Name) (root : Ref) (t : Name) (fs : FileSystem Name) :
    Prop where
  beside : Beside fs0.next (ownNames t) fs0 fs
  root_eq : fs.root = some root
  root_synced : fs.rootSynced = true
  root_kind : fs.kind root = .directory

/-- A name of the token in the store directory, or any name below such a name. -/
def OwnPlace (t : Name) (parent : List Name) (n : Name) : Prop :=
  (parent = [] ∧ ∃ k : Artifact, n = k.name t) ∨ ∃ k : Artifact, parent = [k.name t]

/-- Operations in the area of the token `t`; inodes from `old` on are the transaction's. -/
def OwnOp (old : Ref) (t : Name) : HostOp → Prop
  | .file (.createDirectory parent n _) | .file (.createFile parent n _)
  | .file (.removeFile parent n) | .file (.removeDirectory parent n) => OwnPlace t parent n
  | .file (.rename parent m n) => OwnPlace t parent m ∧ OwnPlace t parent n
  | .file (.setPathPermissions path _) => ∃ k : Artifact, path = [k.name t]
  | .file (.setPermissions r _) | .file (.write r _) => old ≤ r
  | .file (.createRoot _) | .file (.hardLink _ _ _) => False
  | _ => True

lemma HostOp.IsLook.own (h : op.IsLook) (old : Ref) (t : Name) : OwnOp old t op := by
  cases op with
  | file o => cases o <;> trivial
  | _ => trivial

namespace Working

variable {fs0 : FileSystem Name} {es : List (Effect Name)}

/-- A transaction begins with nothing under its names. -/
lemma refl (hb : fs.Bounded) (ht : Fresh fs t) (hroot : fs.root = some root)
    (hs : fs.rootSynced = true) (hk : fs.kind root = .directory) : Working fs root t fs := by
  refine ⟨Beside.refl hb ?_, hroot, hs, hk⟩
  rintro d n ⟨k, rfl⟩
  exact ht d k

section

variable (h : Working fs0 root t fs)

include h

lemma root_lt : root < fs0.next := by
  refine h.beside.1.root_lt root ?_
  rw [← h.beside.1.root]
  exact h.root_eq

lemma le_next : fs0.next ≤ fs.next := h.beside.1.le_next

lemma run {e : Effect Name} (he : e.Within fs0.next (ownNames t)) :
    Working fs0 root t (e.run fs) where
  beside := h.beside.run he
  root_eq := by
    cases e with
    | setRoot r => exact he.elim
    | _ => exact h.root_eq
  root_synced := by
    cases e with
    | setRoot r => exact he.elim
    | _ => exact h.root_synced
  root_kind := by
    rw [kind_run fun a _ => Nat.ne_of_lt (Nat.lt_of_lt_of_le h.root_lt h.le_next)]
    exact h.root_kind

lemma runAll (he : ∀ e ∈ es, e.Within fs0.next (ownNames t)) :
    Working fs0 root t (fs.runAll es) := by
  induction es generalizing fs with
  | nil => exact h
  | cons e es ih => exact ih (h.run (he e (by simp))) fun e' he' => he e' (by simp [he'])

/-- The names of the token lead to inodes of the transaction. -/
lemma le_of_walk {k : Artifact} (hw : fs.walk [k.name t] = .ok r) : fs0.next ≤ r := by
  rw [walk_one h.root_eq h.root_kind] at hw
  split at hw
  · next hl =>
    cases hw
    exact h.beside.1.inner root _ _ (.inr ⟨k, rfl⟩) hl
  · cases hw

lemma place {parent : List Name} {d : Ref} (hp : OwnPlace t parent n)
    (hd : fs.directoryAt parent = .ok d) : fs0.next ≤ d ∨ ownNames t d n := by
  rcases hp with ⟨-, hn⟩ | ⟨k, rfl⟩
  · exact .inr hn
  · exact .inl (h.le_of_walk (directoryAt_ok hd).1)

lemma within {o : FileOp Name} (ho : OwnOp fs0.next t (.file o)) {who : Credentials}
    {order : List Name} {v : o.Value} (hm : fs.meaning who order o = .ok (v, es)) :
    ∀ e ∈ es, e.Within fs0.next (ownNames t) := by
  cases o with
  | openDirectory | openFile | symlinkMetadata | readDirectory | metadata | read =>
    dsimp only [meaning] at hm
    repeat' split at hm
    all_goals cases hm <;> simp
  | createRoot | hardLink => exact ho.elim
  | setPermissions | write =>
    cases hm
    intro e he
    rw [List.mem_singleton] at he
    subst he
    exact ho
  | sync =>
    cases hm
    simp [Effect.Within]
  | setPathPermissions =>
    obtain ⟨k, rfl⟩ := ho
    dsimp only [meaning] at hm
    split at hm <;> cases hm
    next hw => simpa [Effect.Within] using h.le_of_walk hw
  | createFile | createDirectory =>
    dsimp only [meaning] at hm
    split at hm <;> cases hm
    next hd =>
      have hplace := h.place ho (vacantAt_ok hd).1
      simpa [Effect.Within] using ⟨hplace, h.le_next⟩
  | rename parent m n =>
    have moved : ∀ d r, fs.entryAt parent m = .ok (d, r) →
        ∀ e ∈ [Effect.change d [(m, none), (n, some r)]], e.Within fs0.next (ownNames t) := by
      intro d r he
      obtain ⟨hd, hl⟩ := entryAt_ok he
      have hm := h.place ho.1 hd
      have hn := h.place ho.2 hd
      have hr := h.beside.1.inner d m r hm hl
      simp only [forall_eq, Effect.Within, List.mem_cons, List.not_mem_nil, or_false]
      rintro x (rfl | rfl)
      · exact ⟨hm, nofun⟩
      refine ⟨hn, fun q hq => ?_⟩
      cases hq
      exact hr
    dsimp only [meaning] at hm
    split at hm
    · next he =>
      split at hm
      · cases hm
        exact moved _ _ he
      split at hm
      · cases hm
        simp
      · split at hm <;> cases hm
        exact moved _ _ he
    · cases hm
  | removeFile | removeDirectory =>
    dsimp only [meaning] at hm
    split at hm
    · next he =>
      split at hm <;> cases hm
      simpa [Effect.Within] using h.place ho (entryAt_ok he).1
    · cases hm

end

/-- An operation in the area keeps everything else, whether it fails or not. -/
lemma exec {w : World} (h : Working fs0 root t w.fs) (ho : OwnOp fs0.next t op)
    (c : Choice) : Working fs0 root t (Host.exec c w op).2.fs := by
  refine exec_keeps h ?_ ?_ c
  · rintro o rfl order v es hm
    exact h.runAll (h.within ho hm)
  · rintro r b b' rfl
    exact h.run (e := .write r b') ho

end Working

/-- Working in the area of a token. -/
@[reducible] def area (fs0 : FileSystem Name) (root : Ref) (t : Name) : Regime where
  inv := Working fs0 root t
  allows := OwnOp fs0.next t
  look _ h := h.own _ _
  stable _ _ c h ho := h.exec ho c

/-! ### The store's functions in the area -/

variable {fs0 : FileSystem Name} {w : World} {g : Ref}

lemma area_writes (hr : fs0.next ≤ r) : (area fs0 root t).Writes r := ⟨fun _ => hr, fun _ => hr, trivial⟩

/-- The name of the token stands for the directory `g`. -/
structure Stands (fs : FileSystem Name) (root : Ref) (n : Name) (g : Ref) : Prop where
  lookup : fs.lookup root n = some g
  kind : fs.kind g = .directory

lemma Stands.directoryAt (h : Stands fs root n g)
    (hroot : fs.root = some root) (hk : fs.kind root = .directory) :
    fs.directoryAt [n] = .ok g := by
  unfold FileSystem.directoryAt
  rw [walk_one hroot hk, h.lookup]
  dsimp only
  rw [if_pos h.kind]

lemma acts_syncDirectory (hw : Working fs0 root t w.fs) (hg : Stands w.fs root n g) :
    Acts (area fs0 root t) (syncDirectory n) (fun _ w' => w'.fs = (Effect.sync g).run w.fs) w := by
  have hd := hg.directoryAt hw.root_eq hw.root_kind
  have hopen : Acts (area fs0 root t) (openCheckedDirectory [n]) (fun r w' => r = g ∧ w' = w) w := by
    refine Acts.reads (reads_openCheckedDirectory _) hw fun r hr => ⟨?_, rfl⟩
    cases hd.symm.trans (directoryView_ok hr).1
    rfl
  refine hopen.bind ?_
  rintro _ _ - - ⟨rfl, rfl⟩
  exact acts_sync hw trivial

/-- A dropped transaction leaves the rest of the store alone. -/
lemma working_drop (hw : Working fs0 root t w.fs) (tx : CatacombPairTransaction)
    (ht : tx.token = t) : Prog.wp Host (area fs0 root t).Inside tx.drop
      (fun _ w' => Working fs0 root t w'.fs ∧ Beyond w w') w := by
  subst ht
  have hremove : ∀ k : Artifact, Keeps (area fs0 root tx.token)
      (removePrivateGeneration (k.name tx.token)) := fun k =>
    keeps_removePrivateGeneration (fun _ _ => .inr ⟨k, rfl⟩) (.inl ⟨rfl, k, rfl⟩ : OwnPlace _ _ _)
  exact wp_drop hw (.inl ⟨rfl, .markerTemporary, rfl⟩ : OwnPlace _ _ _) (fun _ => hremove .stage)
    fun _ _ => hremove .generation

end T1Bridge.Store
