import T1Bridge.Store.Promotion

/-! # Views of a pruned store

A file system that prunes another one (`Prunes`) has lost names, and has new inodes at names of
its own.  What was found through names that are still there is found again: a private file had
one name only, so it is private still. -/

namespace T1Bridge.Store

open FileSystem

variable {g : Name} {n : Name}

/-! ### Names on a path -/

variable {fs : FileSystem Name} {root r : Ref}

lemma lookup_of_walk_one (hroot : fs.root = some root) (h : fs.walk [n] = .ok r) :
    fs.lookup root n = some r := by
  unfold walk walkFrom at h
  rw [hroot] at h
  dsimp only at h
  split at h
  · cases hl : fs.lookup root n with
    | none =>
      rw [hl] at h
      cases h
    | some q =>
      rw [hl] at h
      cases h
      rfl
  · cases h

lemma lookup_of_openAt_one (hroot : fs.root = some root)
    (ho : openAt fs [n] = .ok r) : fs.lookup root n = some r := by
  unfold openAt at ho
  split at ho
  · next hwalk =>
    split at ho
    · cases ho
    · cases ho
      exact lookup_of_walk_one hroot hwalk
  · cases ho

lemma lookup_of_openAt_two {root d r : Ref} (hroot : fs.root = some root)
    (hk : fs.kind root = .directory) (hg : fs.lookup root g = some d) (hd : fs.kind d = .directory)
    (ho : openAt fs [g, n] = .ok r) : fs.lookup d n = some r := by
  unfold openAt at ho
  rw [walk_two hroot hk hg hd] at ho
  cases hl : fs.lookup d n with
  | none =>
    rw [hl] at ho
    cases ho
  | some q =>
    rw [hl] at ho
    dsimp only at ho
    split at ho
    · cases ho
    · cases ho
      rfl

lemma opened_mono {α β : Type} {x : Except FileError β} {e : Outcome α}
    {f g : β → Outcome α} {v : α} (h : ∀ r v, x = .ok r → f r = .ok v → g r = .ok v)
    (hv : opened x e f = .ok v) : opened x e g = .ok v := by
  cases x with
  | ok r => exact h r v rfl hv
  | error e' => cases e' <;> exact hv

/-! ### What is still found -/

variable {own : Ref → Name → Prop} {a b : FileSystem Name} (h : Prunes a.next own a b) {uid : ℕ}
include h

lemma storeView_of_prunes (uid : ℕ) : storeView b uid = storeView a uid := by
  unfold storeView FileSystem.directoryAt walk walkFrom checkedDirectory
  rw [h.root]
  cases hroot : a.root with
  | none => rfl
  | some r =>
    have hr := h.root_lt r hroot
    dsimp only
    rw [h.kind hr]
    split
    · rw [opened_found, opened_found, h.kind hr, h.attributes r hr]
    · rfl

lemma kind_root_of_prunes (hroot : a.root = some root) (hk : a.kind root = .directory) :
    b.kind root = .directory := (h.kind (h.root_lt root hroot)).trans hk

variable (ha : a.Bounded) (hb : b.Bounded) {d : Ref}
include ha

section

variable (hroot : a.root = some root) (hk : a.kind root = .directory)
include hroot hk

lemma openAt_root_of_prunes (hn : b.lookup root n = a.lookup root n) :
    openAt b [n] = openAt a [n] := by
  unfold openAt
  rw [walk_one (h.root.trans hroot) (kind_root_of_prunes h hroot hk), walk_one hroot hk, hn]
  cases hl : a.lookup root n with
  | none => rfl
  | some r =>
    dsimp only
    rw [h.kind (ha.lookup_lt hl).2]

lemma missing_of_prunes (hn : b.lookup root activeMarker = a.lookup root activeMarker)
    (hm : markerView a uid = .error .missingPair) : markerView b uid = .error .missingPair := by
  unfold markerView
  rw [openAt_root_of_prunes h ha hroot hk hn, openAt_of_missing hm]
  rfl

lemma openAt_below_of_prunes (hg : b.lookup root g = a.lookup root g)
    (hl : a.lookup root g = some d) (hd : a.kind d = .directory) (hn : b.lookup d n = a.lookup d n) :
    openAt b [g, n] = openAt a [g, n] := by
  have hkd := (h.kind (ha.lookup_lt hl).2).trans hd
  unfold openAt
  rw [walk_two (h.root.trans hroot) (kind_root_of_prunes h hroot hk) (hg.trans hl) hkd,
    walk_two hroot hk hl hd, hn]
  cases hr : a.lookup d n with
  | none => rfl
  | some r =>
    dsimp only
    rw [h.kind (ha.lookup_lt hr).2]

lemma directoryView_of_prunes (hg : b.lookup root g = a.lookup root g)
    (hl : a.lookup root g = some d) : directoryView b uid [g] = directoryView a uid [g] := by
  have hd := (ha.lookup_lt hl).2
  unfold directoryView FileSystem.directoryAt checkedDirectory
  rw [walk_one (h.root.trans hroot) (kind_root_of_prunes h hroot hk), walk_one hroot hk, hg, hl]
  dsimp only
  rw [h.kind hd]
  split
  · rw [opened_found, opened_found, h.kind hd, h.attributes d hd]
  · rfl

end

include hb

lemma checkedFile_of_prunes (hl : a.lookup d n = some r)
    (hn : b.lookup d n = a.lookup d n) (hok : checkedFile a uid r = .ok ()) :
    checkedFile b uid r = .ok () := by
  have hr := (ha.lookup_lt hl).2
  obtain ⟨hkind, hmode, huid, hone⟩ := checkedFile_ok.mp hok
  refine checkedFile_ok.mpr ⟨(h.kind hr).trans hkind, by rw [h.attributes r hr, hmode],
    by rw [h.attributes r hr, huid], (links_eq_one_iff hb (hn.trans hl)).mpr fun d' n' h' => ?_⟩
  exact (links_eq_one_iff ha hl).mp hone d' n' (h.fewer d' n' r hr h')

/-- A private file whose name stays is private still: it had no other name. -/
lemma checkedBytes_of_prunes (hl : a.lookup d n = some r)
    (hn : b.lookup d n = a.lookup d n) {bad : ℕ → Bool} {e : CatacombStoreError}
    {bytes : List UInt8} (hok : checkedBytes a uid bad e r = .ok bytes) :
    checkedBytes b uid bad e r = .ok bytes := by
  obtain ⟨hfile, hbad, hbytes⟩ := checkedBytes_ok.mp hok
  have hsame := h.bytes r (ha.lookup_lt hl).2
  exact checkedBytes_ok.mpr ⟨checkedFile_of_prunes h ha hb hl hn hfile, hsame ▸ hbad, hsame ▸ hbytes⟩

variable (hroot : a.root = some root) (hk : a.kind root = .directory)
include hroot hk

lemma markerView_of_prunes (hn : b.lookup root activeMarker = a.lookup root activeMarker)
    (hm : markerView a uid = .ok g) : markerView b uid = .ok g := by
  unfold markerView at hm ⊢
  rw [openAt_root_of_prunes h ha hroot hk hn]
  refine opened_mono (fun r v ho hv => ?_) hm
  obtain ⟨bytes, hbytes, hv⟩ := Except.of_bind_ok hv
  rw [checkedBytes_of_prunes h ha hb (lookup_of_openAt_one hroot ho) hn hbytes]
  exact hv

lemma pairView_of_prunes (hg : b.lookup root g = a.lookup root g)
    (hfiles : ∀ d, a.lookup root g = some d → a.kind d = .directory → ∀ n, isPairFile n = true →
      b.lookup d n = a.lookup d n) {pair : CatacombPair} (hp : pairView a uid g = .ok pair) :
    pairView b uid g = .ok pair := by
  obtain ⟨⟨d, hd⟩, hmaster, huser, hmeta⟩ := pairView_ok hp
  obtain ⟨hdir, -⟩ := directoryView_ok hd
  have hl := lookup_of_walk_one hroot (directoryAt_ok hdir).1
  have hkd := (directoryAt_ok hdir).2
  have hkept := hfiles d hl hkd
  have hbytes : ∀ {n : Name} (_ : isPairFile n = true) {r : Ref} {bad : ℕ → Bool}
      {e : CatacombStoreError} {bytes : List UInt8}, openAt a [g, n] = .ok r →
      checkedBytes a uid bad e r = .ok bytes → checkedBytes b uid bad e r = .ok bytes := by
    intro n hn r bad e bytes ho
    exact checkedBytes_of_prunes h ha hb (lookup_of_openAt_two hroot hk hl hkd ho) (hkept n hn)
  have hopen : ∀ n, isPairFile n = true → openAt b [g, n] = openAt a [g, n] :=
    fun n hn => openAt_below_of_prunes h ha hroot hk hg hl hkd (hkept n hn)
  have hblob : ∀ {n : Name} (_ : isPairFile n = true) {bytes : List UInt8},
      blobView a uid [g, n] = .ok bytes → blobView b uid [g, n] = .ok bytes := by
    intro n hn bytes hv
    unfold blobView at hv ⊢
    rw [hopen n hn]
    exact opened_mono (fun r v ho hv => hbytes hn ho hv) hv
  have hmeta' : metadataView b uid [g, identityMetadataFile] = .ok pair.metadata := by
    unfold metadataView at hmeta ⊢
    rw [hopen _ rfl]
    refine opened_mono (fun r v ho hv => ?_) hmeta
    obtain ⟨bytes, hb, hv⟩ := Except.of_bind_ok hv
    rw [hbytes rfl ho hb]
    exact hv
  unfold pairView
  rw [directoryView_of_prunes h ha hroot hk hg hl, hd, hblob rfl hmaster, hblob rfl huser, hmeta']
  rfl

end T1Bridge.Store
