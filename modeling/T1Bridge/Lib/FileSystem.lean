import Mathlib.Data.List.AList
import Mathlib.Data.List.Nodup
import T1Bridge.Lib.Heap

/-! # A file system that forgets what was not synchronised

Files and directories are inodes, named by references; a directory maps names to
references.  Every change of a directory is one atomic step (`Change`), and a directory
keeps the changes made since it was last synchronised (`Directory.pending`) apart from what
is on the disk (`Directory.durable`).  A file knows whether its bytes were synchronised.

`FileOp` has the calls a program makes, `FileSystem.meaning` says what each returns and
which elementary `Effect`s it has, and `FileSystem.exec` adds that any call can fail.
Two things hold of every file system: no name refers to an inode that was never allocated
(`Bounded`), and a directory has one name (`Tree`).  Every call keeps them
(`meaning_keeps`, `torn_keeps`). -/

inductive FileKind where
  | regular | directory | symlink | special
deriving DecidableEq

/-- Who creates an object, and who is asked for as its owner. -/
structure Credentials where
  uid : ℕ
  gid : ℕ
deriving DecidableEq

structure Attributes where
  kind : FileKind
  mode : ℕ
  owner : Credentials
deriving DecidableEq

/-- The bytes of a file; those of a file that is not `synced` are anything after a crash. -/
@[ext] structure FileData where
  bytes : List UInt8 := []
  synced : Bool := true
deriving DecidableEq

variable (ν : Type)

abbrev Entries := AList fun _ : ν => Ref

/-- Assignments to names that reach the disk together or not at all. -/
abbrev Change := List (ν × Option Ref)

/-- The names on the disk and the changes not yet synchronised. -/
@[ext] structure Directory where
  durable : Entries ν
  pending : List (Change ν)

/-- Inodes are named by references below `next`. -/
@[ext] structure FileSystem where
  attributes : Ref → Attributes
  file : Ref → FileData
  directory : Ref → Directory ν
  next : Ref
  root : Option Ref
  rootSynced : Bool

variable {ν} [DecidableEq ν] {d' : Ref} {cs : List (Change ν)} {c : Change ν} {n : ν}

/-! ### Names and changes -/

namespace Entries

variable (e : Entries ν)

def assign (n : ν) : Option Ref → Entries ν
  | none => e.erase n
  | some r => e.insert n r

def apply (c : Change ν) : Entries ν := c.foldl (fun e a => e.assign a.1 a.2) e

def applyAll (cs : List (Change ν)) : Entries ν := cs.foldl apply e

lemma lookup_assign (e : Entries ν) (n m : ν) (v : Option Ref) :
    (e.assign n v).lookup m = if m = n then v else e.lookup m := by
  by_cases h : m = n
  · subst h
    cases v <;> simp [assign]
  · cases v <;> simp [assign, h]

variable {e} {r : Ref}

lemma lookup_apply_of_notMem (h : ∀ a ∈ c, a.1 ≠ n) : (e.apply c).lookup n = e.lookup n := by
  unfold apply
  induction c generalizing e with
  | nil => rfl
  | cons a c ih =>
    have ha : n ≠ a.1 := (h a (by simp)).symm
    rw [List.foldl_cons, ih fun b hb => h b (by simp [hb]), lookup_assign, if_neg ha]

lemma mem_of_lookup_apply
    (h : (e.apply c).lookup n = some r) : e.lookup n = some r ∨ (n, some r) ∈ c := by
  induction c generalizing e with
  | nil => exact .inl h
  | cons a c ih =>
    rcases ih h with h | h
    · rw [lookup_assign] at h
      split at h
      · next hn =>
        rw [hn, ← h]
        simp
      · exact .inl h
    · exact .inr (by simp [h])

lemma lookup_applyAll_of_notMem (h : ∀ c ∈ cs, ∀ a ∈ c, a.1 ≠ n) :
    (e.applyAll cs).lookup n = e.lookup n := by
  induction cs generalizing e with
  | nil => rfl
  | cons c cs ih =>
    have hc := lookup_apply_of_notMem (e := e) (h c (by simp))
    rw [← hc]
    exact ih fun b hb => h b (by simp [hb])

lemma mem_of_lookup_applyAll (h : (e.applyAll cs).lookup n = some r) :
    e.lookup n = some r ∨ ∃ c ∈ cs, (n, some r) ∈ c := by
  induction cs generalizing e with
  | nil => exact .inl h
  | cons c cs ih =>
    rcases ih h with h | ⟨d, hd, hmem⟩
    · rcases mem_of_lookup_apply h with h | h
      · exact .inl h
      · exact .inr ⟨c, by simp, h⟩
    · exact .inr ⟨d, by simp [hd], hmem⟩

/-- What a name means after changes it meant before, or one of the changes says so. -/
lemma outcome_apply (e : Entries ν) (c : Change ν) (n : ν) :
    (e.apply c).lookup n = e.lookup n ∨ (n, (e.apply c).lookup n) ∈ c := by
  unfold apply
  induction c generalizing e with
  | nil => exact .inl rfl
  | cons a c ih =>
    rcases ih (e.assign a.1 a.2) with h | h
    · rw [List.foldl_cons, h, lookup_assign]
      by_cases hn : n = a.1
      · subst hn
        exact .inr (by simp)
      · exact .inl (if_neg hn)
    · exact .inr (List.mem_cons_of_mem a h)

lemma outcome_applyAll (e : Entries ν) (cs : List (Change ν)) (n : ν) :
    (e.applyAll cs).lookup n = e.lookup n ∨ ∃ c ∈ cs, (n, (e.applyAll cs).lookup n) ∈ c := by
  induction cs generalizing e with
  | nil => exact .inl rfl
  | cons c cs ih =>
    rcases ih (e.apply c) with h | ⟨c', hc', hmem⟩
    · have hcons : e.applyAll (c :: cs) = (e.apply c).applyAll cs := rfl
      rw [hcons, h]
      rcases e.outcome_apply c n with hc | hc
      · exact .inl hc
      · exact .inr ⟨c, List.mem_cons_self, hc⟩
    · exact .inr ⟨c', List.mem_cons_of_mem c hc', hmem⟩

end Entries

namespace Directory

variable (d : Directory ν)

/-- What a program sees: everything done so far. -/
def live : Entries ν := d.durable.applyAll d.pending

def settle : Directory ν := ⟨d.live, []⟩

def change (c : Change ν) : Directory ν := ⟨d.durable, d.pending ++ [c]⟩

@[simp] lemma live_settle (d : Directory ν) : d.settle.live = d.live := rfl

@[simp] lemma live_change (d : Directory ν) (c : Change ν) :
    (d.change c).live = d.live.apply c := by
  simp [live, change, Entries.applyAll]

end Directory

/-! ### Elementary effects -/

/-- The elementary changes of a file system. -/
inductive FileSystem.Effect (ν : Type) where
  /-- A new inode, at the reference `next`. -/
  | allocate (a : Attributes)
  | change (d : Ref) (c : Change ν)
  | sync (r : Ref)
  | write (r : Ref) (bytes : List UInt8)
  | chmod (r : Ref) (mode : ℕ)
  | setRoot (r : Ref)

namespace FileSystem

variable (fs : FileSystem ν)

def lookup (d : Ref) (n : ν) : Option Ref := (fs.directory d).live.lookup n

def kind (r : Ref) : FileKind := (fs.attributes r).kind

def bytes (r : Ref) : List UInt8 := (fs.file r).bytes

def Effect.run : Effect ν → FileSystem ν → FileSystem ν
  | .allocate a, fs =>
    { fs with
      attributes := Function.update fs.attributes fs.next a
      file := Function.update fs.file fs.next {}
      directory := Function.update fs.directory fs.next ⟨∅, []⟩
      next := fs.next + 1 }
  | .change d c, fs =>
    { fs with directory := Function.update fs.directory d ((fs.directory d).change c) }
  | .sync r, fs =>
    { fs with
      directory := Function.update fs.directory r (fs.directory r).settle
      file := Function.update fs.file r { fs.file r with synced := true } }
  | .write r bytes, fs => { fs with file := Function.update fs.file r ⟨bytes, false⟩ }
  | .chmod r mode, fs =>
    { fs with attributes := Function.update fs.attributes r { fs.attributes r with mode } }
  | .setRoot r, fs => { fs with root := some r, rootSynced := false }

def runAll (es : List (Effect ν)) : FileSystem ν := es.foldl (fun fs e => e.run fs) fs

variable {fs} {a : Attributes} {d r q : Ref} {m : ℕ} {b : List UInt8}

lemma lookup_allocate :
    ((Effect.allocate a).run fs).lookup d n = if d = fs.next then none else fs.lookup d n := by
  unfold lookup Effect.run
  by_cases h : d = fs.next
  · subst h
    simp [Directory.live, Entries.applyAll]
  · simp [h]

lemma lookup_change : ((Effect.change d c).run fs).lookup d' n =
      if d' = d then ((fs.directory d).live.apply c).lookup n else fs.lookup d' n := by
  unfold lookup Effect.run
  by_cases h : d' = d
  · subst h
    simp
  · simp [h]

lemma lookup_change_one {m : ν} {v : Option Ref} : ((Effect.change d [(m, v)]).run fs).lookup d' n =
      if d' = d ∧ n = m then v else fs.lookup d' n := by
  rw [lookup_change]
  by_cases h : d' = d
  · subst h
    simp [Entries.apply, Entries.lookup_assign, lookup]
  · simp [h]

lemma lookup_change_two {m m' : ν} {v v' : Option Ref} :
    ((Effect.change d [(m, v), (m', v')]).run fs).lookup d' n =
      if d' = d ∧ n = m' then v' else if d' = d ∧ n = m then v else fs.lookup d' n := by
  rw [lookup_change]
  by_cases h : d' = d
  · subst h
    simp [Entries.apply, Entries.lookup_assign, lookup]
  · simp [h]

/-- Names a change does not mention keep their meaning. -/
lemma lookup_change_of_notMem (h : d' = d → ∀ a ∈ c, a.1 ≠ n) :
    ((Effect.change d c).run fs).lookup d' n = fs.lookup d' n := by
  rw [lookup_change]
  split
  · next hd =>
    subst hd
    exact Entries.lookup_apply_of_notMem (h rfl)
  · rfl

@[simp] lemma lookup_sync : ((Effect.sync r).run fs).lookup d n = fs.lookup d n := by
  unfold lookup Effect.run
  by_cases h : d = r
  · subst h
    simp
  · simp [h]

@[simp] lemma lookup_write : ((Effect.write r b).run fs).lookup d n = fs.lookup d n := rfl

@[simp] lemma lookup_chmod : ((Effect.chmod r m).run fs).lookup d n = fs.lookup d n := rfl

@[simp] lemma lookup_setRoot : ((Effect.setRoot r).run fs).lookup d n = fs.lookup d n := rfl

lemma bytes_allocate :
    ((Effect.allocate a).run fs).bytes r = if r = fs.next then [] else fs.bytes r := by
  unfold bytes Effect.run
  by_cases h : r = fs.next
  · subst h
    simp
  · simp [h]

lemma bytes_write : ((Effect.write q b).run fs).bytes r = if r = q then b else fs.bytes r := by
  unfold bytes Effect.run
  by_cases h : r = q
  · subst h
    simp
  · simp [h]

@[simp] lemma bytes_sync : ((Effect.sync q).run fs).bytes r = fs.bytes r := by
  unfold bytes Effect.run
  by_cases h : r = q
  · subst h
    simp
  · simp [h]

@[simp] lemma bytes_change : ((Effect.change d c).run fs).bytes r = fs.bytes r := rfl

@[simp] lemma bytes_chmod : ((Effect.chmod q m).run fs).bytes r = fs.bytes r := rfl

lemma attributes_allocate :
    ((Effect.allocate a).run fs).attributes r = if r = fs.next then a else fs.attributes r := by
  unfold Effect.run
  by_cases h : r = fs.next
  · subst h
    simp
  · simp [h]

lemma attributes_chmod : ((Effect.chmod q m).run fs).attributes r =
      if r = q then { fs.attributes r with mode := m } else fs.attributes r := by
  unfold Effect.run
  by_cases h : r = q
  · subst h
    simp
  · simp [h]

lemma kind_run {e : Effect ν} (h : ∀ a, e = .allocate a → r ≠ fs.next) :
    (e.run fs).kind r = fs.kind r := by
  cases e with
  | allocate a => simp [kind, Effect.run, h a rfl]
  | chmod q m =>
    unfold kind Effect.run
    by_cases hq : r = q
    · subst hq
      simp
    · simp [hq]
  | change | sync | write | setRoot => rfl

/-! ### What holds of every file system -/

/-- No name refers to an inode that was never allocated. -/
structure Bounded (fs : FileSystem ν) : Prop where
  root_lt : ∀ r, fs.root = some r → r < fs.next
  durable_lt : ∀ d n r, (fs.directory d).durable.lookup n = some r → d < fs.next ∧ r < fs.next
  pending_lt : ∀ d, ∀ c ∈ (fs.directory d).pending,
    d < fs.next ∧ ∀ n r, (n, some r) ∈ c → r < fs.next

section

variable (hb : fs.Bounded)

include hb

lemma Bounded.lookup_lt (h : fs.lookup d n = some r) : d < fs.next ∧ r < fs.next := by
  rcases Entries.mem_of_lookup_applyAll h with h | ⟨c, hc, hmem⟩
  · exact hb.durable_lt d n r h
  · exact (hb.pending_lt d c hc).imp id fun hc => hc n r hmem

lemma Bounded.allocate (a : Attributes) : ((Effect.allocate a).run fs).Bounded where
  root_lt r hr := Nat.lt_succ_of_lt (hb.root_lt r hr)
  durable_lt d n r h := by
    simp only [Effect.run] at h ⊢
    by_cases hd : d = fs.next
    · subst hd
      simp at h
    · rw [Function.update_of_ne hd] at h
      exact (hb.durable_lt d n r h).imp Nat.lt_succ_of_lt Nat.lt_succ_of_lt
  pending_lt d c hc := by
    simp only [Effect.run] at hc ⊢
    by_cases hd : d = fs.next
    · subst hd
      simp at hc
    · rw [Function.update_of_ne hd] at hc
      exact (hb.pending_lt d c hc).imp Nat.lt_succ_of_lt
        fun h n r hmem => Nat.lt_succ_of_lt (h n r hmem)

lemma Bounded.change (hd : d < fs.next) (hc : ∀ n r, (n, some r) ∈ c → r < fs.next) :
    ((Effect.change d c).run fs).Bounded where
  root_lt := hb.root_lt
  durable_lt e n r h := by
    simp only [Effect.run] at h ⊢
    by_cases he : e = d
    · subst he
      rw [Function.update_self] at h
      exact hb.durable_lt e n r h
    · rw [Function.update_of_ne he] at h
      exact hb.durable_lt e n r h
  pending_lt e b hmem := by
    simp only [Effect.run] at hmem ⊢
    by_cases he : e = d
    · subst he
      rw [Function.update_self] at hmem
      simp only [Directory.change, List.mem_append, List.mem_singleton] at hmem
      rcases hmem with hmem | rfl
      · exact hb.pending_lt e b hmem
      · exact ⟨hd, hc⟩
    · rw [Function.update_of_ne he] at hmem
      exact hb.pending_lt e b hmem

lemma Bounded.sync (q : Ref) : ((Effect.sync q).run fs).Bounded where
  root_lt := hb.root_lt
  durable_lt d n r h := by
    simp only [Effect.run] at h ⊢
    by_cases hd : d = q
    · subst hd
      rw [Function.update_self] at h
      exact hb.lookup_lt h
    · rw [Function.update_of_ne hd] at h
      exact hb.durable_lt d n r h
  pending_lt d c hc := by
    simp only [Effect.run] at hc ⊢
    by_cases hd : d = q
    · subst hd
      simp [Directory.settle] at hc
    · rw [Function.update_of_ne hd] at hc
      exact hb.pending_lt d c hc

lemma Bounded.write (r : Ref) (b : List UInt8) : ((Effect.write r b).run fs).Bounded := { hb with }

lemma Bounded.chmod (r : Ref) (m : ℕ) : ((Effect.chmod r m).run fs).Bounded := { hb with }

lemma Bounded.setRoot (hr : r < fs.next) : ((Effect.setRoot r).run fs).Bounded :=
  { hb with root_lt := fun _ hq => Option.some.inj hq ▸ hr }

end

/-- A directory has one name. -/
def Tree (fs : FileSystem ν) : Prop :=
  ∀ r, fs.kind r = .directory → ∀ d n d' n', fs.lookup d n = some r →
    fs.lookup d' n' = some r → d = d' ∧ n = n'

lemma Tree.allocate (ht : fs.Tree) (hb : fs.Bounded) (a : Attributes) :
    ((Effect.allocate a).run fs).Tree := by
  intro r hk d n d' n' h h'
  rw [lookup_allocate] at h h'
  split at h
  · cases h
  split at h'
  · cases h'
  have hr : r ≠ fs.next := Nat.ne_of_lt (hb.lookup_lt h).2
  rw [kind_run fun _ _ => hr] at hk
  exact ht r hk d n d' n' h h'

lemma Tree.of_lookup (ht : fs.Tree) (e : Effect ν) (he : ∀ a, e ≠ .allocate a)
    (h : ∀ d n, (e.run fs).lookup d n = fs.lookup d n) : (e.run fs).Tree := by
  intro r hk d n d' n' hl hl'
  rw [kind_run fun a ha => absurd ha (he a)] at hk
  rw [h] at hl hl'
  exact ht r hk d n d' n' hl hl'

lemma Tree.unlink (ht : fs.Tree) (d : Ref) (m : ν) :
    ((Effect.change d [(m, none)]).run fs).Tree := by
  intro r hk e n e' n' h h'
  rw [lookup_change_one] at h h'
  split at h
  · cases h
  split at h'
  · cases h'
  exact ht r hk e n e' n' h h'

lemma Tree.link (ht : fs.Tree) {m : ν}
    (hq : fs.kind q = .directory → ∀ e n, fs.lookup e n ≠ some q) :
    ((Effect.change d [(m, some q)]).run fs).Tree := by
  intro r hk e n e' n' h h'
  rw [lookup_change_one] at h h'
  split at h <;> split at h'
  · next h1 h2 => exact ⟨h1.1.trans h2.1.symm, h1.2.trans h2.2.symm⟩
  · cases h
    exact absurd h' (hq hk e' n')
  · cases h'
    exact absurd h (hq hk e n)
  · exact ht r hk e n e' n' h h'

lemma Tree.rename (ht : fs.Tree) {m m' : ν} (hm : fs.lookup d m = some q) :
    ((Effect.change d [(m, none), (m', some q)]).run fs).Tree := by
  intro r hk e n e' n' h h'
  rw [lookup_change_two] at h h'
  have moved : ∀ e n, ¬(e = d ∧ n = m) → fs.lookup e n ≠ some q ∨ r ≠ q := by
    intro e n hne
    by_cases hr : r = q
    · subst hr
      exact .inl fun hl => hne (ht r hk e n d m hl hm)
    · exact .inr hr
  split at h <;> split at h'
  · next h1 h2 => exact ⟨h1.1.trans h2.1.symm, h1.2.trans h2.2.symm⟩
  · cases h
    split at h'
    · cases h'
    · next hne => rcases moved e' n' hne with hl | hr <;> contradiction
  · cases h'
    split at h
    · cases h
    · next hne => rcases moved e n hne with hl | hr <;> contradiction
  · split at h
    · cases h
    split at h'
    · cases h'
    exact ht r hk e n e' n' h h'

/-! ### Link counts -/

/-- The names of an inode. -/
def names (fs : FileSystem ν) (r : Ref) : List (Ref × ν) :=
  (List.range fs.next).flatMap fun d =>
    ((fs.directory d).live.keys.filter fun n => fs.lookup d n = some r).map fun n => (d, n)

def links (fs : FileSystem ν) (r : Ref) : ℕ := (fs.names r).length

lemma mem_keys : n ∈ (fs.directory d).live.keys ↔ ∃ r, fs.lookup d n = some r := by
  rw [← AList.mem_keys, ← AList.lookup_isSome]
  exact Option.isSome_iff_exists

lemma mem_names (hb : fs.Bounded) : (d, n) ∈ fs.names r ↔ fs.lookup d n = some r := by
  unfold names
  simp only [List.mem_flatMap, List.mem_range, List.mem_map, List.mem_filter, decide_eq_true_eq,
    Prod.mk.injEq]
  constructor
  · rintro ⟨e, -, m, ⟨-, hm⟩, rfl, rfl⟩
    exact hm
  · intro h
    exact ⟨d, (hb.lookup_lt h).1, n, ⟨mem_keys.mpr ⟨r, h⟩, h⟩, rfl, rfl⟩

lemma nodup_names (fs : FileSystem ν) (r : Ref) : (fs.names r).Nodup := by
  unfold names
  rw [List.nodup_flatMap]
  constructor
  · intro d _
    exact ((fs.directory d).live.keys_nodup.filter _).map fun _ _ h => (Prod.mk.inj h).2
  refine List.nodup_range.imp fun hne => ?_
  rintro ⟨d, n⟩ h h'
  obtain ⟨_, -, hd⟩ := List.mem_map.mp h
  obtain ⟨_, -, hd'⟩ := List.mem_map.mp h'
  exact hne ((Prod.mk.inj hd).1.trans (Prod.mk.inj hd').1.symm)

lemma links_congr {fs' : FileSystem ν} (hb : fs.Bounded) (hb' : fs'.Bounded)
    (h : ∀ d n, fs.lookup d n = some r ↔ fs'.lookup d n = some r) : fs.links r = fs'.links r := by
  refine List.Perm.length_eq ?_
  rw [List.perm_ext_iff_of_nodup (nodup_names fs r) (nodup_names fs' r)]
  rintro ⟨d, n⟩
  rw [mem_names hb, mem_names hb']
  exact h d n

lemma links_eq_one_iff (hb : fs.Bounded) (h : fs.lookup d n = some r) :
    fs.links r = 1 ↔ ∀ d' n', fs.lookup d' n' = some r → d' = d ∧ n' = n := by
  have hmem := (mem_names hb).mpr h
  constructor
  · intro hone d' n' h'
    obtain ⟨x, hx⟩ := List.length_eq_one_iff.mp hone
    have hmem' := (mem_names hb).mpr h'
    rw [hx, List.mem_singleton] at hmem hmem'
    exact Prod.mk.inj (hmem'.trans hmem.symm)
  intro hsole
  have hperm : (fs.names r).Perm [(d, n)] := by
    rw [List.perm_ext_iff_of_nodup (nodup_names fs r) (List.nodup_singleton _)]
    rintro ⟨d', n'⟩
    rw [mem_names hb, List.mem_singleton, Prod.mk.injEq]
    constructor
    · exact hsole d' n'
    · rintro ⟨rfl, rfl⟩
      exact h
  exact hperm.length_eq

end FileSystem

/-! ### File systems given by their inodes -/

/-- An inode as it is on the disk. -/
structure Node (ν : Type) where
  attributes : Attributes
  bytes : List UInt8 := []
  entries : List (ν × Ref) := []

namespace FileSystem

/-- A file system at rest with these inodes; the first is the root. -/
def ofNodes (nodes : List (Node ν)) : FileSystem ν where
  attributes r := (nodes[r]?.map Node.attributes).getD ⟨.special, 0, ⟨0, 0⟩⟩
  file r := ⟨(nodes[r]?.map Node.bytes).getD [], true⟩
  directory r :=
    ⟨Entries.apply ∅ (((nodes[r]?.map Node.entries).getD []).map fun e => (e.1, some e.2)), []⟩
  next := nodes.length
  root := if nodes.isEmpty then none else some 0
  rootSynced := true

variable {nodes : List (Node ν)}

lemma mem_of_lookup_ofNodes {d r : Ref}
    (h : ((ofNodes nodes).directory d).durable.lookup n = some r) :
    ∃ x, nodes[d]? = some x ∧ (n, r) ∈ x.entries := by
  rcases Entries.mem_of_lookup_apply h with h | h
  · cases h
  · cases hx : nodes[d]? with
    | none => simp [hx] at h
    | some x =>
      refine ⟨x, rfl, ?_⟩
      simp only [hx, List.mem_map] at h
      obtain ⟨e, he, rfl, rfl⟩ := h
      exact he

lemma bounded_ofNodes
    (h : ∀ x ∈ nodes, ∀ e ∈ x.entries, e.2 < nodes.length) : (ofNodes nodes).Bounded where
  root_lt r hr := by
    unfold ofNodes at hr
    split at hr
    · cases hr
    next hne =>
    cases hr
    exact List.length_pos_iff.mpr (by simpa using hne)
  durable_lt d n r hl := by
    obtain ⟨x, hx, hmem⟩ := mem_of_lookup_ofNodes hl
    exact ⟨(List.getElem?_eq_some_iff.mp hx).1, h x (List.mem_of_getElem? hx) (n, r) hmem⟩
  pending_lt d c hc := by cases hc

/-- The names of directories among these inodes. -/
def directoryNames (nodes : List (Node ν)) : List ((ℕ × ν) × Ref) :=
  nodes.zipIdx.flatMap fun x => (x.1.entries.filter fun e =>
    (nodes[e.2]?.map fun y => y.attributes.kind) = some .directory).map fun e => ((x.2, e.1), e.2)

lemma tree_ofNodes
    (h : ∀ a ∈ directoryNames nodes, ∀ b ∈ directoryNames nodes, a.2 = b.2 → a.1 = b.1) :
    (ofNodes nodes).Tree := by
  intro r hk d n d' n' hl hl'
  have hkind : (nodes[r]?.map fun y => y.attributes.kind) = some .directory := by
    change ((nodes[r]?.map Node.attributes).getD ⟨.special, 0, ⟨0, 0⟩⟩).kind = .directory at hk
    cases hr : nodes[r]? <;> rw [hr] at hk
    · cases hk
    · exact congrArg some hk
  have hmem : ∀ d n, (ofNodes nodes).lookup d n = some r → ((d, n), r) ∈ directoryNames nodes := by
    intro d n hl
    obtain ⟨x, hx, hmem⟩ := mem_of_lookup_ofNodes hl
    rw [directoryNames, List.mem_flatMap]
    refine ⟨(x, d), List.mem_zipIdx_iff_getElem?.mpr hx, ?_⟩
    rw [List.mem_map]
    exact ⟨(n, r), List.mem_filter.mpr ⟨hmem, by simpa using hkind⟩, rfl⟩
  exact Prod.mk.inj (h _ (hmem d n hl) _ (hmem d' n' hl') rfl)

end FileSystem
