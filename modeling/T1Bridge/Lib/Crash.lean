import T1Bridge.Lib.FileCall

/-! # What a crash leaves

`Crash fs img` relates a file system to what can be found on the disk afterwards: of the
changes a directory has pending any may be missing, each as a whole, and a file that was not
synchronised holds any bytes.

Two kinds of facts survive.  A *pinned* entry or file is on the disk already
(`PinnedEntry.crash`, `PinnedFile.crash`); effects elsewhere keep it pinned.  And a program
that works in an area of its own leaves the rest as it was: `Beside old own fs0 fs` says that
`fs`, and everything a crash makes of it, agrees with `fs0`, or with something a crash can
make of it, outside the inodes from `old` on and the names `own` (`Beside.run`). -/

namespace FileSystem

open Function (update update_eq_self update_idem update_of_ne update_self)
open Effect (allocate change chmod sync write)

variable {ν : Type} [DecidableEq ν]

/-- `img` is what a crash can leave of `fs`: some of the pending changes, in order. -/
structure Crash (fs img : FileSystem ν) : Prop where
  next : img.next = fs.next
  attributes : img.attributes = fs.attributes
  root : img.root = fs.root ∨ fs.rootSynced = false ∧ img.root = none
  rootSynced : img.rootSynced = true
  synced : ∀ r, (img.file r).synced = true
  bytes : ∀ r, (fs.file r).synced = true → img.bytes r = fs.bytes r
  directory : ∀ d, ∃ kept, kept.Sublist (fs.directory d).pending ∧
    img.directory d = ⟨(fs.directory d).durable.applyAll kept, []⟩

variable {fs img img0 : FileSystem ν}

lemma Crash.kind (h : Crash fs img) (r : Ref) : img.kind r = fs.kind r := by
  rw [FileSystem.kind, h.attributes, FileSystem.kind]

lemma Crash.root_eq (h : Crash fs img) (hs : fs.rootSynced = true) : img.root = fs.root := by
  rcases h.root with hr | ⟨hr, -⟩
  · exact hr
  · rw [hs] at hr
    cases hr

lemma Crash.bounded (h : Crash fs img) (hb : fs.Bounded) : img.Bounded where
  root_lt r hr := by
    rw [h.next]
    rcases h.root with hroot | ⟨-, hroot⟩
    · exact hb.root_lt r (hroot ▸ hr)
    · rw [hroot] at hr
      cases hr
  durable_lt d n r hl := by
    obtain ⟨kept, hsub, hd⟩ := h.directory d
    rw [h.next]
    rw [hd] at hl
    rcases Entries.mem_of_lookup_applyAll hl with hl | ⟨c, hc, hmem⟩
    · exact hb.durable_lt d n r hl
    · exact (hb.pending_lt d c (hsub.subset hc)).imp id fun h => h n r hmem
  pending_lt d c hc := by
    obtain ⟨kept, -, hd⟩ := h.directory d
    rw [hd] at hc
    cases hc

/-! ### Nothing left to lose -/

/-- Everything is on the disk. -/
structure Settled (fs : FileSystem ν) : Prop where
  rootSynced : fs.rootSynced = true
  synced : ∀ r, (fs.file r).synced = true
  pending : ∀ d, (fs.directory d).pending = []

lemma Crash.settled (h : Crash fs img) : img.Settled where
  rootSynced := h.rootSynced
  synced := h.synced
  pending d := by
    obtain ⟨kept, -, hd⟩ := h.directory d
    rw [hd]

lemma Settled.crash_eq (hs : fs.Settled) (h : Crash fs img) : img = fs := by
  refine FileSystem.ext h.attributes ?_ ?_ h.next ?_ (h.rootSynced.trans hs.rootSynced.symm)
  · funext r
    exact FileData.ext (h.bytes r (hs.synced r)) ((h.synced r).trans (hs.synced r).symm)
  · funext d
    obtain ⟨kept, hsub, hd⟩ := h.directory d
    rw [hs.pending d, List.sublist_nil] at hsub
    subst hsub
    rw [hd]
    exact Directory.ext rfl (hs.pending d).symm
  · exact h.root_eq hs.rootSynced

lemma settled_ofNodes (nodes : List (Node ν)) : (ofNodes nodes).Settled :=
  ⟨rfl, fun _ => rfl, fun _ => rfl⟩

/-- The disk when every pending change reached it. -/
def settle (fs : FileSystem ν) : FileSystem ν :=
  { fs with
    file := fun r => ⟨fs.bytes r, true⟩
    directory := fun d => (fs.directory d).settle
    rootSynced := true }

/-- A program that dies leaves at least what it could see. -/
lemma crash_settle (fs : FileSystem ν) : Crash fs fs.settle where
  next := rfl
  attributes := rfl
  root := Or.inl rfl
  rootSynced := rfl
  synced _ := rfl
  bytes _ _ := rfl
  directory _ := ⟨_, List.Sublist.refl _, rfl⟩

/-- The file system found after the process ended, or after the machine crashed. -/
def Left (fs img : FileSystem ν) : Prop := img = fs ∨ Crash fs img

/-! ### Pinned entries and files -/

/-- The name `n` means `v` in the directory `d`, and no crash changes that. -/
def PinnedEntry (fs : FileSystem ν) (d : Ref) (n : ν) (v : Option Ref) : Prop :=
  (∀ c ∈ (fs.directory d).pending, ∀ a ∈ c, a.1 ≠ n) ∧ (fs.directory d).durable.lookup n = v

/-- The content of the file is on the disk. -/
def PinnedFile (fs : FileSystem ν) (r : Ref) (b : List UInt8) : Prop :=
  (fs.file r).synced = true ∧ fs.bytes r = b

variable {d r : Ref} {n : ν} {v : Option Ref} {x : List UInt8} {e : Effect ν} {c : Change ν}

lemma PinnedEntry.lookup (h : fs.PinnedEntry d n v) : fs.lookup d n = v := by
  rw [FileSystem.lookup, Directory.live, Entries.lookup_applyAll_of_notMem h.1]
  exact h.2

lemma PinnedEntry.crash (h : fs.PinnedEntry d n v) (hc : Crash fs img) : img.PinnedEntry d n v := by
  obtain ⟨kept, hsub, hd⟩ := hc.directory d
  constructor
  · rw [hd]
    intro c hmem
    cases hmem
  · rw [hd, Entries.lookup_applyAll_of_notMem fun c hmem => h.1 c (hsub.subset hmem)]
    exact h.2

lemma PinnedFile.crash (h : fs.PinnedFile r x)
    (hc : Crash fs img) : img.PinnedFile r x := ⟨hc.synced r, (hc.bytes r h.1).trans h.2⟩

/-- No directory has the name or a pending change of it. -/
def isFree (fs : FileSystem ν) (n : ν) : Bool :=
  (List.range fs.next).all fun d =>
    ((fs.directory d).durable.lookup n).isNone &&
      (fs.directory d).pending.all fun c => c.all fun a => a.1 ≠ n

lemma pinnedEntry_of_isFree (hb : fs.Bounded) (h : fs.isFree n = true) (d : Ref) :
    fs.PinnedEntry d n none := by
  simp only [isFree, List.all_eq_true, List.mem_range, Bool.and_eq_true, Option.isNone_iff_eq_none,
    decide_eq_true_eq] at h
  by_cases hd : d < fs.next
  · exact ⟨fun c hc a ha => (h d hd).2 c hc a ha, (h d hd).1⟩
  refine ⟨fun c hc => absurd (hb.pending_lt d c hc).1 hd, ?_⟩
  by_contra hne
  obtain ⟨r, hr⟩ := Option.ne_none_iff_exists'.mp hne
  exact hd (hb.durable_lt d n r hr).1

lemma pinnedEntry_sync (d : Ref) (n : ν) : ((sync d).run fs).PinnedEntry d n (fs.lookup d n) := by
  unfold PinnedEntry Effect.run
  simp only [update_self]
  constructor
  · intro c hc
    cases hc
  · rfl

lemma pinnedEntry_of_lookup (h : fs.lookup d n = v) : ((sync d).run fs).PinnedEntry d n v := by
  rw [← h]
  exact pinnedEntry_sync d n

lemma pinnedFile_sync (r : Ref) : ((sync r).run fs).PinnedFile r (fs.bytes r) := by
  unfold PinnedFile Effect.run bytes
  simp

lemma PinnedEntry.run (h : fs.PinnedEntry d n v) (halloc : d ≠ fs.next)
    (he : ∀ c, e = .change d c → ∀ a ∈ c, a.1 ≠ n) : (e.run fs).PinnedEntry d n v := by
  cases e with
  | allocate a =>
    simp only [PinnedEntry, Effect.run, update_of_ne halloc]
    exact h
  | change d' c =>
    simp only [PinnedEntry, Effect.run]
    by_cases hd : d = d'
    · subst hd
      rw [update_self]
      refine ⟨?_, h.2⟩
      simp only [Directory.change, List.mem_append, List.mem_singleton]
      rintro b (hb | rfl)
      · exact h.1 b hb
      · exact he b rfl
    · rw [update_of_ne hd]
      exact h
  | sync r =>
    by_cases hd : d = r
    · subst hd
      rw [← h.lookup]
      exact pinnedEntry_sync d n
    · simp only [PinnedEntry, Effect.run, update_of_ne hd]
      exact h
  | write | chmod | setRoot => exact h

lemma PinnedFile.run (h : fs.PinnedFile r x)
    (halloc : r ≠ fs.next) (he : ∀ b', e ≠ .write r b') : (e.run fs).PinnedFile r x := by
  cases e with
  | allocate a =>
    simp only [PinnedFile, Effect.run, bytes, update_of_ne halloc]
    exact h
  | write q b' =>
    have hq : r ≠ q := fun hq => he b' (hq ▸ rfl)
    simp only [PinnedFile, Effect.run, bytes, update_of_ne hq]
    exact h
  | sync q =>
    by_cases hq : r = q
    · subst hq
      rw [← h.2]
      exact pinnedFile_sync r
    · simp only [PinnedFile, Effect.run, bytes, update_of_ne hq]
      exact h
  | change | chmod | setRoot => exact h

/-! ### What an effect adds to the crashes that are possible -/

/-- The image after an effect, next to the image before it. -/
def Effect.Shadow : Effect ν → FileSystem ν → FileSystem ν → Prop
  | .allocate a, img0, img => img = (allocate a).run img0
  | .change d c, img0, img =>
    img = img0 ∨ img = (sync d).run ((change d c).run img0)
  | .sync _, img0, img => img = img0
  | .write r _, img0, img => ∃ b, img = (sync r).run ((write r b).run img0)
  | .chmod r m, img0, img => img = (chmod r m).run img0
  | .setRoot _, _, _ => True

lemma Crash.shadow_allocate {a : Attributes} (h : Crash ((allocate a).run fs) img) :
    ∃ img0, Crash fs img0 ∧ img = (allocate a).run img0 := by
  have hfile : img.file fs.next = {} := by
    refine FileData.ext ?_ (h.synced _)
    have hb := h.bytes fs.next (by simp [Effect.run])
    rw [bytes_allocate, if_pos rfl] at hb
    exact hb
  have hdir : img.directory fs.next = ⟨∅, []⟩ := by
    obtain ⟨kept, hsub, hd⟩ := h.directory fs.next
    simp only [Effect.run, update_self, List.sublist_nil] at hsub hd
    subst hsub
    exact hd
  refine ⟨{ img with
    next := fs.next
    attributes := fs.attributes
    file := update img.file fs.next ⟨fs.bytes fs.next, true⟩
    directory := update img.directory fs.next ⟨(fs.directory fs.next).durable, []⟩ },
    ⟨rfl, rfl, h.root, h.rootSynced, fun r => ?_, fun r hr => ?_, fun d => ?_⟩, ?_⟩
  · by_cases hr : r = fs.next
    · subst hr
      simp
    · simp only [update_of_ne hr]
      exact h.synced r
  · by_cases hn : r = fs.next
    · subst hn
      simp [FileSystem.bytes]
    · have hb := h.bytes r
      simp only [Effect.run, FileSystem.bytes, update_of_ne hn] at hb ⊢
      exact hb hr
  · by_cases hd : d = fs.next
    · subst hd
      exact ⟨[], List.nil_sublist _, by simp [Entries.applyAll]⟩
    · have hdir := h.directory d
      simp only [Effect.run, update_of_ne hd] at hdir ⊢
      exact hdir
  · refine FileSystem.ext h.attributes ?_ ?_ h.next rfl rfl
    · simp only [Effect.run, update_idem]
      rw [← hfile, update_eq_self]
    · simp only [Effect.run, update_idem]
      rw [← hdir, update_eq_self]

lemma Crash.shadow_change (h : Crash ((change d c).run fs) img) :
    ∃ img0, Crash fs img0 ∧ (img = img0 ∨ img = (sync d).run ((change d c).run img0)) := by
  obtain ⟨kept, hsub, hkept⟩ := h.directory d
  have other : ∀ e, e ≠ d → ∃ kept, kept.Sublist (fs.directory e).pending ∧
      img.directory e = ⟨(fs.directory e).durable.applyAll kept, []⟩ := by
    intro e he
    have hdir := h.directory e
    simp only [Effect.run, update_of_ne he] at hdir
    exact hdir
  simp only [Effect.run, update_self] at hsub hkept
  obtain ⟨before, last, rfl, hbefore, hlast⟩ := List.sublist_append_iff.mp hsub
  -- the new change was lost, or it was kept after what was kept of the others
  rcases List.sublist_singleton.mp hlast with rfl | rfl
  · refine ⟨img, { h with directory := fun e => ?_ }, Or.inl rfl⟩
    by_cases he : e = d
    · subst he
      rw [List.append_nil] at hkept
      exact ⟨before, hbefore, hkept⟩
    · exact other e he
  refine ⟨{ img with
      directory := update img.directory d ⟨(fs.directory d).durable.applyAll before, []⟩ },
    { h with directory := fun e => ?_ }, .inr ?_⟩
  · by_cases he : e = d
    · subst he
      exact ⟨before, hbefore, by simp⟩
    · simp only [update_of_ne he]
      exact other e he
  · refine FileSystem.ext rfl ?_ ?_ rfl rfl rfl
    · have hfile : { img.file d with synced := true } = img.file d :=
        FileData.ext rfl (h.synced d).symm
      simp only [Effect.run, hfile, update_eq_self]
    · simp only [Effect.run, update_idem, update_self]
      rw [eq_comm, Function.update_eq_iff]
      refine ⟨?_, fun e _ => rfl⟩
      simp only [hkept, Entries.applyAll, List.foldl_append]
      rfl

lemma Crash.shadow_sync (h : Crash ((sync r).run fs) img) : Crash fs img := by
  refine { h with bytes := fun q hq => ?_, directory := fun d => ?_ }
  · have hb := h.bytes q
    rw [bytes_sync] at hb
    refine hb ?_
    by_cases hr : q = r
    · subst hr
      simp [Effect.run]
    · simpa only [Effect.run, update_of_ne hr] using hq
  · obtain ⟨kept, hsub, hd⟩ := h.directory d
    by_cases hr : d = r
    · subst hr
      simp only [Effect.run, update_self, Directory.settle, List.sublist_nil] at hsub hd
      subst hsub
      exact ⟨_, List.Sublist.refl _, hd⟩
    · simp only [Effect.run, update_of_ne hr] at hsub hd
      exact ⟨kept, hsub, hd⟩

lemma Crash.shadow_write (h : Crash ((write r x).run fs) img) :
    ∃ img0, Crash fs img0 ∧ ∃ b', img = (sync r).run ((write r b').run img0) := by
  refine ⟨{ img with file := update img.file r ⟨fs.bytes r, true⟩ },
    { h with synced := fun q => ?_, bytes := fun q hq => ?_ }, img.bytes r, ?_⟩
  · by_cases hr : q = r
    · subst hr
      simp
    · simp only [update_of_ne hr]
      exact h.synced q
  · by_cases hr : q = r
    · subst hr
      simp [FileSystem.bytes]
    · have hb := h.bytes q
      simp only [Effect.run, FileSystem.bytes, update_of_ne hr] at hb ⊢
      exact hb hq
  · refine FileSystem.ext rfl ?_ ?_ rfl rfl rfl
    · have hfile : (⟨img.bytes r, true⟩ : FileData) = img.file r :=
        FileData.ext rfl (h.synced r).symm
      simp only [Effect.run, update_idem, update_self, hfile, update_eq_self]
    · have hdir : (img.directory r).settle = img.directory r :=
        Directory.ext (by rw [Directory.settle, Directory.live, h.settled.pending r]; rfl)
          (h.settled.pending r).symm
      simp only [Effect.run, hdir, update_eq_self]

/-- Every crash after an effect is a crash before it, seen through the effect. -/
lemma Crash.shadow (h : Crash (e.run fs) img) : ∃ img0, Crash fs img0 ∧ e.Shadow img0 img := by
  cases e with
  | allocate a => exact h.shadow_allocate
  | change d c => exact h.shadow_change
  | sync r => exact ⟨img, h.shadow_sync, rfl⟩
  | write r b => exact h.shadow_write
  | chmod r m =>
    exact ⟨{ img with attributes := fs.attributes }, { h with attributes := rfl },
      FileSystem.ext h.attributes rfl rfl rfl rfl rfl⟩
  | setRoot r =>
    exact ⟨{ img with root := fs.root }, { h with root := .inl rfl }, trivial⟩

/-! ### Working in an area of one's own -/

/-- The inodes before `old` are in `b` what they are in `a`, with no further name, and with the
names they have in `a` outside of `own`. -/
structure Prunes (old : Ref) (own : Ref → ν → Prop) (a b : FileSystem ν) : Prop where
  root : b.root = a.root
  root_lt : ∀ r, a.root = some r → r < old
  le_next : old ≤ b.next
  attributes : ∀ r < old, b.attributes r = a.attributes r
  bytes : ∀ r < old, b.bytes r = a.bytes r
  outer : ∀ d < old, ∀ n, ¬ own d n → b.lookup d n = a.lookup d n
  fewer : ∀ d n, ∀ r < old, b.lookup d n = some r → a.lookup d n = some r

/-- `b` differs from `a` only in inodes from `old` on and in the names `own`, and what it has
there refers to such inodes only. -/
structure Agree (old : Ref) (own : Ref → ν → Prop) (a b : FileSystem ν) : Prop
    extends Prunes old own a b where
  inner : ∀ d n r, old ≤ d ∨ own d n → b.lookup d n = some r → old ≤ r
  vacant : ∀ d n, own d n → a.lookup d n = none
  bound : ∀ d n r, a.lookup d n = some r → d < old ∧ r < old

/-- The effect stays in the area. -/
def Effect.Within (old : Ref) (own : Ref → ν → Prop) : Effect ν → Prop
  | .allocate _ | .sync _ => True
  | .change d c => ∀ x ∈ c, (old ≤ d ∨ own d x.1) ∧ ∀ r, x.2 = some r → old ≤ r
  | .write r _ | .chmod r _ => old ≤ r
  | .setRoot _ => False

variable {old : Ref} {own : Ref → ν → Prop} {a b : FileSystem ν}

lemma Prunes.refl (hb : fs.Bounded) : Prunes fs.next own fs fs :=
  ⟨rfl, hb.root_lt, Nat.le_refl _, fun _ _ => rfl, fun _ _ => rfl, fun _ _ _ _ => rfl,
    fun _ _ _ _ h => h⟩

section

variable (h : Prunes old own a b)

include h

lemma Prunes.run_allocate (x : Attributes) : Prunes old own a ((allocate x).run b) := by
  have hne : ∀ r < old, r ≠ b.next := fun r hr => Nat.ne_of_lt (Nat.lt_of_lt_of_le hr h.le_next)
  refine { h with
    le_next := Nat.le_succ_of_le h.le_next
    attributes := fun r hr => ?_, bytes := fun r hr => ?_
    outer := fun d hd n hn => ?_, fewer := fun d n r hr hl => ?_ }
  · rw [attributes_allocate, if_neg (hne r hr)]
    exact h.attributes r hr
  · rw [bytes_allocate, if_neg (hne r hr)]
    exact h.bytes r hr
  · rw [lookup_allocate, if_neg (hne d hd)]
    exact h.outer d hd n hn
  rw [lookup_allocate] at hl
  split at hl
  · cases hl
  · exact h.fewer d n r hr hl

lemma Prunes.run_change (hc : (change d c).Within old own) :
    Prunes old own a ((change d c).run b) := by
  refine { h with outer := fun e he n hn => ?_, fewer := fun e n r hr hl => ?_ }
  · rw [lookup_change_of_notMem]
    · exact h.outer e he n hn
    rintro rfl x hx rfl
    rcases (hc x hx).1 with hd | hown
    · exact absurd he (Nat.not_lt.mpr hd)
    · exact hn hown
  · rw [lookup_change] at hl
    split at hl
    · next he =>
      subst he
      rcases Entries.mem_of_lookup_apply hl with hl | hmem
      · exact h.fewer e n r hr hl
      · exact absurd hr (Nat.not_lt.mpr ((hc _ hmem).2 r rfl))
    · exact h.fewer e n r hr hl

lemma Prunes.run_write (hr : old ≤ r) (x : List UInt8) : Prunes old own a ((write r x).run b) := by
  refine { h with bytes := fun q hq => ?_ }
  rw [bytes_write, if_neg (Nat.ne_of_lt (Nat.lt_of_lt_of_le hq hr))]
  exact h.bytes q hq

lemma Prunes.run_chmod (hr : old ≤ r) (m : ℕ) : Prunes old own a ((chmod r m).run b) := by
  refine { h with attributes := fun q hq => ?_ }
  rw [attributes_chmod, if_neg (Nat.ne_of_lt (Nat.lt_of_lt_of_le hq hr))]
  exact h.attributes q hq

lemma Prunes.run_sync (r : Ref) : Prunes old own a ((sync r).run b) := by
  refine { h with bytes := ?_, outer := ?_, fewer := ?_ }
  · simp only [bytes_sync]
    exact h.bytes
  · simp only [lookup_sync]
    exact h.outer
  · simp only [lookup_sync]
    exact h.fewer

lemma Prunes.run (he : e.Within old own) : Prunes old own a (e.run b) := by
  cases e with
  | allocate x => exact h.run_allocate x
  | change d c => exact h.run_change he
  | sync r => exact h.run_sync r
  | write r x => exact h.run_write he x
  | chmod r m => exact h.run_chmod he m
  | setRoot r => exact he.elim

end

/-- What is kept by the effects of an area is kept by what a crash leaves of them. -/
lemma Effect.Shadow.keeps {P : FileSystem ν → Prop} (he : e.Within old own)
    (hrun : ∀ (e : Effect ν) fs, e.Within old own → P fs → P (e.run fs)) (h : P img0)
    (hs : e.Shadow img0 img) : P img := by
  cases e with
  | allocate x | chmod r m => exact hs ▸ hrun _ _ he h
  | change d c =>
    rcases hs with rfl | rfl
    · exact h
    · exact hrun (.sync d) _ trivial (hrun _ _ he h)
  | sync r => exact hs ▸ h
  | write r x =>
    obtain ⟨y, rfl⟩ := hs
    exact hrun (.sync r) _ trivial (hrun (.write r y) _ he h)
  | setRoot r => exact he.elim

lemma Agree.refl (hb : fs.Bounded) (hv : ∀ d n, own d n → fs.lookup d n = none) :
    Agree fs.next own fs fs where
  toPrunes := Prunes.refl hb
  inner d n r h hl := by
    rcases h with h | h
    · exact absurd (hb.lookup_lt hl).1 (Nat.not_lt.mpr h)
    · rw [hv d n h] at hl
      cases hl
  vacant := hv
  bound _ _ _ hl := hb.lookup_lt hl

lemma Agree.run (h : Agree old own a b) (he : e.Within old own) : Agree old own a (e.run b) where
  toPrunes := h.toPrunes.run he
  inner d n r hdn hl := by
    cases e with
    | allocate x =>
      rw [lookup_allocate] at hl
      split at hl
      · cases hl
      · exact h.inner d n r hdn hl
    | change d' c =>
      rw [lookup_change] at hl
      split at hl
      · next hd =>
        subst hd
        rcases Entries.mem_of_lookup_apply hl with hl | hmem
        · exact h.inner d n r hdn hl
        · exact (he _ hmem).2 r rfl
      · exact h.inner d n r hdn hl
    | sync q =>
      rw [lookup_sync] at hl
      exact h.inner d n r hdn hl
    | write | chmod => exact h.inner d n r hdn hl
    | setRoot => exact he.elim
  vacant := h.vacant
  bound := h.bound

lemma Agree.shadow (h : Agree old own a img0) (he : e.Within old own)
    (hs : e.Shadow img0 img) : Agree old own a img :=
  hs.keeps he (fun _ _ he' h' => h'.run he') h

lemma Prunes.kind (h : Prunes old own a b) (hr : r < old) : b.kind r = a.kind r := by
  rw [FileSystem.kind, FileSystem.kind, h.attributes r hr]

lemma Agree.links (h : Agree old own a b) (ha : a.Bounded) (hb : b.Bounded)
    (hr : r < old) : b.links r = a.links r := by
  refine links_congr hb ha fun d n => ?_
  by_cases hdn : old ≤ d ∨ own d n
  · constructor
    · intro hl
      exact absurd hr (Nat.not_lt.mpr (h.inner d n r hdn hl))
    intro hl
    rcases hdn with hd | hown
    · exact absurd (h.bound d n r hl).1 (Nat.not_lt.mpr hd)
    · rw [h.vacant d n hown] at hl
      cases hl
  · rw [not_or, Nat.not_le] at hdn
    rw [h.outer d hdn.1 n hdn.2]

/-- What is seen agrees with `fs0`, and what a crash leaves agrees with what a crash of `fs0`
can leave. -/
def Beside (old : Ref) (own : Ref → ν → Prop) (fs0 fs : FileSystem ν) : Prop :=
  Agree old own fs0 fs ∧ ∀ img, Crash fs img → ∃ img0, Crash fs0 img0 ∧ Agree old own img0 img

lemma Beside.refl (hb : fs.Bounded) (hv : ∀ d n, own d n → fs.PinnedEntry d n none) :
    Beside fs.next own fs fs := by
  refine ⟨Agree.refl hb fun d n h => (hv d n h).lookup, fun img hc => ⟨img, hc, ?_⟩⟩
  rw [← hc.next]
  exact Agree.refl (hc.bounded hb) fun d n h => ((hv d n h).crash hc).lookup

lemma Beside.run {fs0 : FileSystem ν} (h : Beside old own fs0 fs)
    (he : e.Within old own) : Beside old own fs0 (e.run fs) := by
  refine ⟨h.1.run he, fun img hc => ?_⟩
  obtain ⟨img1, hc1, hs⟩ := hc.shadow
  obtain ⟨img0, hc0, ha⟩ := h.2 img1 hc1
  exact ⟨img0, hc0, ha.shadow he hs⟩

end FileSystem
