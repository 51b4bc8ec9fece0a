import T1Bridge.Store.Transaction

/-! # Promotion

The rename of the temporary marker onto `active` is the point where a transaction takes effect.
`Promoted` says what a store directory looks like afterwards, and `Replaced` what is known
between the rename and the synchronisation of the directory: whatever a crash leaves is either
the store the transaction found or the complete new pair. -/

namespace T1Bridge.Store

open FileSystem CatacombPairTransaction
open Prog (wp wp_bind wp_method_bind wp_mono wp_weaken)

variable {b : List UInt8} {n : Name}

/-- The pair as what a transaction has written. -/
def CatacombPair.written (pair : CatacombPair) : Written :=
  ⟨pair.metadata, some pair.user, some pair.master⟩

/-- The marker names the generation of `t`, which holds exactly this pair. -/
structure Promoted (root : Ref) (t : Name) (who : Credentials) (pair : CatacombPair)
    (fs : FileSystem Name) : Prop where
  root_eq : fs.root = some root
  root_ok : checkedDirectory fs who.uid root = .ok ()
  marker : ∃ k, fs.lookup root activeMarker = some k ∧ fs.bytes k = generationName t ++ [10] ∧
    fs.attributes k = privateFile who ∧
    ∀ d n, fs.lookup d n = some k → d = root ∧ n = activeMarker
  generation : ∃ (g : Ref) (ref : Name → Ref), root < g ∧
    fs.PinnedEntry root (generationName t) (some g) ∧
    Held fs g who fun n => (pair.written.file n).map fun b => (ref n, b)

/-! ### A promoted pair loads -/

variable {r root : Ref} {op : HostOp} {uid : ℕ} {fs0 : FileSystem Name} {fs : FileSystem Name}
  {pair : CatacombPair} {who : Credentials} {t : Name}

lemma checkedDirectory_ok : checkedDirectory fs uid r = .ok () ↔ fs.kind r = .directory ∧
      (fs.attributes r).mode &&& 0o777 = 0o700 ∧ (fs.attributes r).owner.uid = uid := by
  simp [checkedDirectory, and_assoc]

/-- A file with the attributes of a transaction's files and one name passes the check. -/
lemma checkedFile_private (ha : fs.attributes r = privateFile who) (hl : fs.links r = 1) :
    checkedFile fs who.uid r = .ok () := by
  rw [checkedFile_ok, kind, ha]
  exact ⟨rfl, (by decide : (0o600 : ℕ) &&& 0o777 = 0o600), rfl, hl⟩

lemma openAt_private {path : List Name}
    (hw : fs.walk path = .ok r) (ha : fs.attributes r = privateFile who) :
    openAt fs path = .ok r := by
  simp [openAt, hw, kind, ha, privateFile]

lemma markerGeneration_token (seed : ArtifactSeed) :
    markerGeneration (generationName (artifactToken seed) ++ [10]) =
      .ok (generationName (artifactToken seed)) := by
  have htext : isText (generationName (artifactToken seed) ++ [10]) = true := by
    refine isText_of_ascii fun b hb => ?_
    have hdash : ∀ b ∈ pairDash, b.toNat < 128 := by decide +kernel
    simp only [Artifact.name, List.mem_append, List.mem_singleton] at hb
    rcases hb with (hb | hb) | rfl
    · exact hdash b hb
    · exact artifactToken_lt seed b hb
    · decide
  have hsuffix : (generationName (artifactToken seed) ++ [10]).dropSuffix? [10] =
      some (generationName (artifactToken seed)) :=
    List.dropSuffix?_eq_some_iff.mpr ⟨[10], rfl, beq_self_eq_true _⟩
  have hname : isGenerationName (generationName (artifactToken seed)) = true :=
    isGenerationName_iff.mpr ⟨_, isToken_artifactToken seed, rfl⟩
  unfold markerGeneration
  rw [if_pos htext, hsuffix]
  dsimp only
  rw [if_pos hname]

lemma walk_two {g : Ref} {m : Name} (hroot : fs.root = some root) (hk : fs.kind root = .directory)
    (hn : fs.lookup root n = some g) (hg : fs.kind g = .directory) :
    fs.walk [n, m] = match fs.lookup g m with
      | some r => .ok r
      | none => .error .notFound := by
  have hfirst : fs.walkFrom root [n, m] = fs.walkFrom g [m] := by
    rw [walkFrom, if_pos hk, hn]
  have hsecond : fs.walkFrom g [m] = match fs.lookup g m with
      | some r => .ok r
      | none => .error .notFound := by
    rw [walkFrom, if_pos hg]
    cases fs.lookup g m <;> rfl
  unfold walk
  rw [hroot]
  exact hfirst.trans hsecond

namespace Promoted

variable {seed : ArtifactSeed}

lemma root_kind (h : Promoted root t who pair fs) : fs.kind root = .directory :=
  (checkedDirectory_ok.mp h.root_ok).1

lemma storeView (h : Promoted root t who pair fs) : storeView fs who.uid = .ok root := by
  unfold Store.storeView
  rw [directoryAt_nil h.root_eq h.root_kind, opened_found, h.root_ok]
  rfl

lemma markerView (h : Promoted root (artifactToken seed) who pair fs) (hb : fs.Bounded) :
    markerView fs who.uid = .ok (generationName (artifactToken seed)) := by
  obtain ⟨k, hl, hbytes, ha, hone⟩ := h.marker
  have hopen : openAt fs [activeMarker] = .ok k := openAt_private
    (by rw [walk_one h.root_eq h.root_kind, hl]) ha
  have hcheck := checkedFile_private ha ((links_eq_one_iff hb hl).mpr hone)
  have hlen : (fs.bytes k).length ≠ 0 ∧ (fs.bytes k).length ≤ maxMarkerSize := by
    have htoken := length_artifactToken_le seed
    have hdash : pairDash.length = 5 := rfl
    rw [hbytes, maxMarkerSize]
    simp only [Artifact.name, List.length_append, List.length_singleton]
    omega
  unfold Store.markerView
  rw [hopen, opened_found, checkedBytes_ok.mpr ⟨hcheck, by simp [hlen], hbytes⟩]
  exact markerGeneration_token seed

section

variable {g f : Ref} {generation : Name} (hb : fs.Bounded) (hroot : fs.root = some root)
  (hk : fs.kind root = .directory) (hg : fs.lookup root generation = some g)
  (hgk : fs.kind g = .directory) (hm : fs.PinnedMember g n f b (privateFile who))

include hb hroot hk hg hgk hm

lemma read_member : openAt fs [generation, n] = .ok f ∧
    ∀ bad e, bad b.length = false → checkedBytes fs who.uid bad e f = .ok b := by
  refine ⟨openAt_private (by rw [walk_two hroot hk hg hgk, hm.entry.lookup]) hm.attributes, ?_⟩
  intro bad e hbad
  have hcheck := checkedFile_private hm.attributes (hm.sole.links hb hm.entry.lookup)
  exact checkedBytes_ok.mpr ⟨hcheck, by rw [hm.file.2, hbad], hm.file.2⟩

lemma blobView_of (hv : validateBlob b = .ok ()) : blobView fs who.uid [generation, n] = .ok b := by
  obtain ⟨hlen, -⟩ := Except.of_ite_error_ok hv
  obtain ⟨hopen, hread⟩ := read_member hb hroot hk hg hgk hm
  unfold Store.blobView
  rw [hopen, opened_found, hread _ _ (by simpa using hlen)]

lemma metadataView_of (hv : validateMetadata b = .ok ()) :
    metadataView fs who.uid [generation, n] = .ok (some b) := by
  have hlen : ¬ (b.length > maxManifestSize) := by
    intro h
    rw [validateMetadata, if_pos (by simp [h])] at hv
    cases hv
  obtain ⟨hopen, hread⟩ := read_member hb hroot hk hg hgk hm
  unfold Store.metadataView
  rw [hopen, opened_found, hread _ _ (by simpa using hlen)]
  change (validateMetadata b >>= _) = _
  rw [hv]
  rfl

end

lemma pairView (h : Promoted root t who pair fs) (hb : fs.Bounded)
    (hv : pair.written.Valid) : pairView fs who.uid (generationName t) = .ok pair := by
  obtain ⟨g, ref, -, hentry, hheld⟩ := h.generation
  have hg := hentry.lookup
  have hgk : fs.kind g = .directory := by
    rw [kind, hheld.attributes]
    rfl
  have hdir : directoryView fs who.uid [generationName t] = .ok g := by
    have hcheck : checkedDirectory fs who.uid g = .ok () := by
      rw [checkedDirectory_ok, hheld.attributes]
      exact ⟨hgk, (by decide : (0o700 : ℕ) &&& 0o777 = 0o700), rfl⟩
    unfold directoryView
    rw [Stands.directoryAt ⟨hg, hgk⟩ h.root_eq h.root_kind, opened_found, hcheck]
    rfl
  have hmaster := blobView_of hb h.root_eq h.root_kind hg hgk (hheld.member masterFile _ pair.master
    (by rfl)) (hv.master _ rfl)
  have huser := blobView_of hb h.root_eq h.root_kind hg hgk (hheld.member userFile _ pair.user
    (by rfl)) (hv.user _ rfl)
  have hmeta : metadataView fs who.uid [generationName t, identityMetadataFile] =
      .ok pair.metadata := by
    cases hm : pair.metadata with
    | some b =>
      have hfile : pair.written.file identityMetadataFile = some b := hm
      exact metadataView_of hb h.root_eq h.root_kind hg hgk
        (hheld.member identityMetadataFile _ b (by rw [hfile]; rfl)) (hv.metadata b hm)
    | none =>
      have hfile : pair.written.file identityMetadataFile = none := hm
      have habsent := hheld.absent identityMetadataFile (by rw [hfile]; rfl)
      unfold Store.metadataView openAt
      rw [walk_two h.root_eq h.root_kind hg hgk, habsent.lookup]
      rfl
  unfold Store.pairView
  rw [hdir, hmaster, huser, hmeta]
  rfl

lemma loadView (h : Promoted root (artifactToken seed) who pair fs) (hb : fs.Bounded)
    (hv : pair.written.Valid) : loadView fs who.uid = .ok pair := by
  unfold Store.loadView
  rw [h.storeView, h.markerView hb]
  exact h.pairView hb hv

lemma sync (h : Promoted root t who pair fs) (r : Ref) :
    Promoted root t who pair ((Effect.sync r).run fs) where
  root_eq := h.root_eq
  root_ok := h.root_ok
  marker := by
    obtain ⟨k, hl, hbytes, ha, hone⟩ := h.marker
    refine ⟨k, ?_, ?_, ha, fun d n hdn => hone d n ?_⟩
    · rw [lookup_sync, hl]
    · rw [bytes_sync, hbytes]
    · rwa [lookup_sync] at hdn
  generation := by
    obtain ⟨g, ref, hlt, hentry, hheld⟩ := h.generation
    have hroot : root < fs.next := Nat.lt_trans hlt hheld.lt
    exact ⟨g, ref, hlt, hentry.run (Nat.ne_of_lt hroot) nofun,
      hheld.run nofun nofun fun _ _ _ _ => trivial⟩

lemma unlink (h : Promoted root t who pair fs) (hactive : n ≠ activeMarker)
    (hgen : n ≠ generationName t) :
    Promoted root t who pair ((Effect.change root [(n, none)]).run fs) where
  root_eq := h.root_eq
  root_ok := h.root_ok
  marker := by
    obtain ⟨k, hl, hbytes, ha, hone⟩ := h.marker
    refine ⟨k, ?_, hbytes, ha, fun d m hdm => hone d m ?_⟩
    · rw [lookup_change_one, if_neg fun hn => hactive hn.2.symm, hl]
    rw [lookup_change_one] at hdm
    split at hdm
    · cases hdm
    · exact hdm
  generation := by
    obtain ⟨g, ref, hlt, hentry, hheld⟩ := h.generation
    have hroot : root < fs.next := Nat.lt_trans hlt hheld.lt
    refine ⟨g, ref, hlt, hentry.run (Nat.ne_of_lt hroot) ?_, hheld.run ?_ ?_ ?_⟩
    · rintro c ⟨⟩ a ha
      cases List.mem_singleton.mp ha
      exact hgen
    · rintro c ⟨⟩
      exact Nat.lt_irrefl _ hlt
    · rintro m ⟨⟩
    rintro m f b - a ha
    cases List.mem_singleton.mp ha
    exact ⟨fun hd => absurd hd (Nat.ne_of_lt hlt), fun hf => by cases hf⟩

end Promoted

/-! ### Between the rename and the end -/

/-- The marker has been replaced: what is seen is the new pair, and a crash leaves it or the
store the transaction found. -/
structure Replaced (fs0 : FileSystem Name) (root : Ref) (t : Name) (who : Credentials)
    (pair : CatacombPair) (fs : FileSystem Name) : Prop where
  seen : Promoted root t who pair fs
  left : ∀ img, Crash fs img → (∃ img0, Crash fs0 img0 ∧ Agree fs0.next (ownNames t) img0 img) ∨
      Promoted root t who pair img
  vacant : fs.lookup root (stageName t) = none

/-- The effects that follow the rename. -/
def Trailing (root : Ref) (t : Name) (e : Effect Name) : Prop :=
  (∃ r, e = .sync r) ∨ ∃ k : Artifact, k ≠ .generation ∧ e = .change root [(k.name t, none)]

lemma Replaced.run (h : Replaced fs0 root t who pair fs) {e : Effect Name}
    (he : Trailing root t e) : Replaced fs0 root t who pair (e.run fs) := by
  rcases he with ⟨r, rfl⟩ | ⟨k, hk, rfl⟩
  · refine ⟨h.seen.sync r, fun img hc => h.left img hc.shadow_sync, ?_⟩
    rw [lookup_sync, h.vacant]
  have hgen : k.name t ≠ generationName t := by simpa using hk
  refine ⟨h.seen.unlink (by simp) hgen, fun img hc => ?_, ?_⟩
  · obtain ⟨img1, hc1, himg⟩ := hc.shadow_change
    rcases h.left img1 hc1 with ⟨img0, hc0, hagree⟩ | hnew
    · refine Or.inl ⟨img0, hc0, hagree.shadow (e := .change root [(k.name t, none)]) ?_ himg⟩
      intro x hx
      cases List.mem_singleton.mp hx
      exact ⟨.inr ⟨k, rfl⟩, nofun⟩
    · rcases himg with rfl | rfl
      · exact .inr hnew
      · exact .inr ((hnew.unlink (by simp) hgen).sync root)
  · rw [lookup_change_one]
    split
    · rfl
    · exact h.vacant

lemma promoted_of_rename {g k : Ref} {ref : Name → Ref} (hroot : fs.root = some root)
    (hok : checkedDirectory fs who.uid root = .ok ()) (hlt : root < g)
    (hgen : fs.PinnedEntry root (generationName t) (some g))
    (hheld : Held fs g who fun n => (pair.written.file n).map fun b => (ref n, b))
    (hbytes : fs.bytes k = generationName t ++ [10]) (ha : fs.attributes k = privateFile who)
    (hone : ∀ d n, fs.lookup d n = some k → d = root ∧ n = markerTemporaryName t) :
    Promoted root t who pair
      ((Effect.change root [(markerTemporaryName t, none), (activeMarker, some k)]).run fs) where
  root_eq := hroot
  root_ok := hok
  marker := by
    refine ⟨k, ?_, hbytes, ha, fun d n hdn => ?_⟩
    · rw [lookup_change_two, if_pos ⟨rfl, rfl⟩]
    rw [lookup_change_two] at hdn
    split at hdn
    · next h => exact h
    split at hdn
    · cases hdn
    · next h => exact absurd (hone d n hdn) h
  generation := by
    have hroot' : root < fs.next := Nat.lt_trans hlt hheld.lt
    refine ⟨g, ref, hlt, hgen.run (Nat.ne_of_lt hroot') ?_, hheld.run ?_ ?_ ?_⟩
    · rintro c ⟨⟩ x hx
      rcases List.mem_pair.mp hx with rfl | rfl
      · simp
      · exact Artifact.name_ne_activeMarker.symm
    · rintro c ⟨⟩
      exact Nat.lt_irrefl _ hlt
    · rintro n ⟨⟩
    rintro n f b hn x hx
    refine ⟨fun hd => absurd hd (Nat.ne_of_lt hlt), fun hf => ?_⟩
    rcases List.mem_pair.mp hx with rfl | rfl
    · cases hf
    · cases hf
      have hname := hone g n (hheld.member n k b hn).entry.lookup
      exact Nat.ne_of_gt hlt hname.1

/-- The temporary marker, written and synchronised, takes the place of the active one. -/
lemma replaced_of_prepared {g m k : Ref} {tx : CatacombPairTransaction}
    (hw : Working fs0 root t fs) (hok : checkedDirectory fs0 who.uid root = .ok ())
    (hp : Prepared root t g m who tx pair.written fs) (hr : tx.generationRenamed = true)
    (hk : fs.Member root (markerTemporaryName t) k (generationName t ++ [10]) (privateFile who))
    (hsynced : fs.PinnedFile k (generationName t ++ [10])) : Replaced fs0 root t who pair
      ((Effect.change root [(markerTemporaryName t, none), (activeMarker, some k)]).run fs) := by
  obtain ⟨ref, hheld⟩ := hp.held
  obtain ⟨hgen, hstage⟩ := hp.placed.renamed hr
  have hattr : fs.attributes root = fs0.attributes root := hw.beside.1.attributes root hw.root_lt
  have hok' : checkedDirectory fs who.uid root = .ok () := by
    rw [checkedDirectory_ok, kind, hattr]
    exact checkedDirectory_ok.mp hok
  refine ⟨?_, fun img hc => ?_, ?_⟩
  · exact promoted_of_rename hw.root_eq hok' hp.root_lt hgen hheld hk.bytes hk.attributes
      fun d n hdn => hk.sole d n (Mentions.of_lookup hdn)
  · obtain ⟨img1, hc1, himg⟩ := hc.shadow_change
    rcases himg with rfl | rfl
    · exact .inl (hw.beside.2 _ hc1)
    have hroot1 : img1.root = some root := (hc1.root_eq hw.root_synced).trans hw.root_eq
    have hok1 : checkedDirectory img1 who.uid root = .ok () := by
      rw [checkedDirectory_ok, kind, hc1.attributes]
      exact checkedDirectory_ok.mp hok'
    refine Or.inr (Promoted.sync ?_ root)
    refine promoted_of_rename hroot1 hok1 hp.root_lt (hgen.crash hc1) (hheld.crash hc1)
      (hsynced.crash hc1).2 ?_ fun d n hdn => hk.sole d n (hc1.mentions hdn)
    rw [hc1.attributes, hk.attributes]
  · rw [lookup_change_two, if_neg (by simp), if_neg (by simp), hstage.lookup]

/-! ### Operations after the rename -/

/-- Looks, synchronisation, and removing what is left of the transaction. -/
def TrailingOp (t : Name) : HostOp → Prop
  | .file (.removeFile parent n) => parent = [] ∧ ∃ k : Artifact, k ≠ .generation ∧ n = k.name t
  | .file (.sync _) => True
  | .file o => (HostOp.file o).IsLook
  | _ => True

lemma HostOp.IsLook.trailing (h : op.IsLook) (t : Name) : TrailingOp t op := by
  cases op with
  | file o => cases o <;> first | exact h | exact h.elim
  | _ => trivial

section AfterRename

lemma Replaced.exec {w : World} (hw : Replaced fs0 root t who pair w.fs)
    (ho : TrailingOp t op) (c : Choice) : Replaced fs0 root t who pair (Host.exec c w op).2.fs := by
  refine exec_keeps hw ?_ ?_ c
  · rintro o rfl order v es hm
    cases o with
    | removeFile parent n =>
      obtain ⟨rfl, k, hk, rfl⟩ := ho
      obtain ⟨d, r, hd, -, rfl⟩ := meaning_remove (.inl rfl) hm
      cases (directoryAt_nil hw.seen.root_eq hw.seen.root_kind).symm.trans hd
      exact hw.run (.inr ⟨k, hk, rfl⟩)
    | sync r =>
      cases hm
      exact hw.run (.inl ⟨r, rfl⟩)
    | _ =>
      rw [meaning_look (by exact ho) hm]
      exact hw
  · rintro r b b' rfl
    exact ho.elim

@[reducible] def replaced (fs0 : FileSystem Name) (root : Ref) (t : Name) (who : Credentials)
    (pair : CatacombPair) : Regime where
  inv := Replaced fs0 root t who pair
  allows := TrailingOp t
  look _ h := h.trailing t
  stable _ _ c hw ho := hw.exec ho c

end AfterRename

/-! ### The methods of promotion -/

variable {g m : Ref} {tx : CatacombPairTransaction} {c : Written} {w : World}

lemma acts_renameGeneration (hw : Working fs0 root t w.fs)
    (hp : Prepared root t g m w.who tx c w.fs) : MethodActs (area fs0 root t) renameGeneration tx
      (fun _ tx' w' => tx' = { tx with generationRenamed := true } ∧
        Prepared root t g m w.who tx' c w'.fs) w := by
  refine MethodActs.get_bind ?_
  split
  · next hr =>
    have htx : { tx with generationRenamed := true } = tx := by rw [← hr]
    exact MethodActs.pure hw ⟨htx.symm, hp⟩
  next hr =>
  rw [← bind_pure (storeStep (α := Unit) (unavailable (.sync tx.directory)))]
  obtain rfl := hp.token
  obtain rfl := hp.directory
  refine acts_rename hw hw.root_eq ⟨.inl ⟨rfl, .stage, rfl⟩, .inl ⟨rfl, .generation, rfl⟩⟩
    trivial fun _ fs1 w1 h1 h2 hw1 _ => ?_
  refine MethodActs.pure hw1 ⟨rfl, ?_⟩
  rw [h2]
  exact hp.renamed (by simpa using hr) h1

/-- How far a transaction is, for what a crash leaves. -/
def Phase (fs0 : FileSystem Name) (root : Ref) (t : Name) (who : Credentials)
    (pair : CatacombPair) (fs : FileSystem Name) : Prop :=
  Working fs0 root t fs ∨ Replaced fs0 root t who pair fs

lemma member_marker (hb : fs.Bounded) (hroot : root < fs.next)
    (who : Credentials) (n generation : Name) :
    (fs.runAll (markerEffects fs who root n generation)).Member root n fs.next
        (generation ++ [10]) (privateFile who) ∧
      (fs.runAll (markerEffects fs who root n generation)).PinnedFile fs.next
        (generation ++ [10]) := by
  have hm := (((Member.create hb hroot n (privateFile who)).chmod 0o600).write generation).write
    (generation ++ [10])
  exact ⟨hm.sync fs.next, (pinnedFile_sync fs.next).1, (hm.sync fs.next).bytes⟩

lemma Prepared.marker
    (hp : Prepared root t g m who tx c fs) (generation : Name) : Prepared root t g m who tx c
      (fs.runAll (markerEffects fs who root (markerTemporaryName t) generation)) := by
  obtain ⟨ref, hheld⟩ := hp.held
  have hroot : root ≠ g := Nat.ne_of_lt hp.root_lt
  refine ⟨hp.token, hp.directory, hp.root_lt, ⟨ref, hheld.runAll ?_⟩,
    hp.placed.runAll (Nat.lt_trans hp.root_lt hp.lt) ?_⟩
  · simp [markerEffects, Held.Avoids, hroot]
  · simp [markerEffects, Placed.Aside]

lemma meaning_rename_marker {order : List Name} {k : Ref} {a : Attributes}
    {v : Unit} {es : List (Effect Name)} (hd : fs.directoryAt [] = .ok root)
    (hk : fs.Member root (markerTemporaryName t) k b a)
    (hm : fs.meaning who order (.rename [] (markerTemporaryName t) activeMarker) = .ok (v, es)) :
    es = [.change root [(markerTemporaryName t, none), (activeMarker, some k)]] := by
  obtain ⟨d, r, hd', hl, hes⟩ := meaning_rename hm
  cases hd.symm.trans hd'
  cases hk.lookup.symm.trans hl
  rcases hes with ⟨hactive, -⟩ | ⟨-, hes⟩
  · have := (hk.sole _ _ (Mentions.of_lookup hactive)).2
    exact absurd this.symm Artifact.name_ne_activeMarker
  · exact hes

/-- What `replace_marker` leaves. -/
def MarkerEnd (fs0 : FileSystem Name) (root : Ref) (t : Name) (who : Credentials)
    (pair : CatacombPair) (tx : CatacombPairTransaction)
    (r : Outcome Unit × CatacombPairTransaction) (w : World) : Prop :=
  Working fs0 root t w.fs ∧ r.2 = tx ∧ r.1 ≠ .ok () ∨
    r.2 = { tx with markerReplaced := true } ∧ Replaced fs0 root t who pair w.fs

lemma wp_replaceMarker (hw : Working fs0 root t w.fs)
    (hok : checkedDirectory fs0 w.who.uid root = .ok ())
    (hp : Prepared root t g m w.who tx pair.written w.fs) (hr : tx.generationRenamed = true) :
    wp Host (fun w' _ => Phase fs0 root t w.who pair w'.fs) (replaceMarker.run.run tx)
      (MarkerEnd fs0 root t w.who pair tx) w := by
  obtain rfl := hp.token
  obtain rfl := hp.directory
  have hd := directoryAt_nil hw.root_eq hw.root_kind
  have hwrite := acts_writeMarker hw hd (.inl ⟨rfl, .markerTemporary, rfl⟩ : OwnPlace _ _ _)
    (area_writes hw.le_next) (generationName tx.token)
  change wp Host _ ((storeStep (writeMarker (markerTemporaryName tx.token)
    (generationName tx.token)) >>= _ : TransactionM Unit).run.run tx) _ w
  rw [wp_method_bind]
  refine wp_storeStep (wp_weaken (fun _ _ h => .inl h.1) ?_ hwrite)
  rintro (e | u) w1 ⟨hw1, -, h1⟩
  · exact .inl ⟨hw1, rfl, by simp⟩
  have hfs1 := h1 u rfl
  have hp1 := hp.marker (generationName tx.token)
  obtain ⟨hk, hsynced⟩ := member_marker w.bounded (Nat.lt_trans hp.root_lt hp.lt) w.who
    (markerTemporaryName tx.token) (generationName tx.token)
  rw [← hfs1] at hp1 hk hsynced
  dsimp only
  rw [wp_method_bind]
  refine wp_storeStep ?_
  refine wp_unavailable (.inl hw1) (fun order v es hm h => ?_)
    (fun order e hm => .inl ⟨hw1, rfl, by simp⟩) (fun _ b h => .inl ⟨hw1, rfl, by simp⟩)
  obtain rfl := meaning_rename_marker (directoryAt_nil hw1.root_eq hw1.root_kind) hk hm
  have hreplaced := replaced_of_prepared hw1 hok hp1 hr hk hsynced
  change wp Host _ ((storeStep (attempt (.sync tx.directory)) >>= _ : TransactionM Unit).run.run
    { tx with markerReplaced := true }) _ _
  rw [wp_method_bind]
  refine wp_storeStep (wp_attempt (.inr hreplaced) (fun order v es hm h => ?_)
    (fun order e hm => ?_) (fun _ b h => ?_))
  · cases hm
    exact .inr ⟨rfl, hreplaced.run (.inl ⟨_, rfl⟩)⟩
  · cases hm
  · exact .inr ⟨rfl, hreplaced⟩

lemma wp_promoteInner (hw : Working fs0 root t w.fs)
    (hok : checkedDirectory fs0 w.who.uid root = .ok ())
    (hp : Prepared root t g m w.who tx pair.written w.fs) (preserve : Bool) :
    wp Host (fun w' _ => Phase fs0 root t w.who pair w'.fs)
      ((promoteInner (pure ()) preserve).run.run tx)
      (fun r w' => r.2.token = t ∧ (Working fs0 root t w'.fs ∨
        r.2.markerReplaced = true ∧ Replaced fs0 root t w.who pair w'.fs)) w := by
  change wp Host _ ((if _ then _ else _ : TransactionM Unit).run.run tx) _ w
  split
  · exact ⟨hp.token, .inl hw⟩
  rw [wp_method_bind]
  refine wp_weaken (fun _ _ h => .inl h.1) ?_ (acts_renameGeneration hw hp)
  rintro ⟨e | u, tx1⟩ w1 ⟨hw1, hb1, hfollows, h1⟩
  · exact ⟨hfollows.token.trans hp.token, .inl hw1⟩
  obtain ⟨rfl, hp1⟩ := h1 u rfl
  change wp Host _ ((replaceMarker >>= fun _ => releaseRecovery : TransactionM Unit).run.run
    { tx with generationRenamed := true }) _ w1
  rw [wp_method_bind]
  rw [← hb1.1] at hok hp1 ⊢
  refine wp_mono ?_ (wp_replaceMarker hw1 hok hp1 rfl)
  rintro ⟨e | u, tx2⟩ w2 (⟨hw2, rfl, hne⟩ | ⟨rfl, hrep⟩)
  · exact ⟨hp.token, .inl hw2⟩
  · exact ⟨hp.token, .inr ⟨rfl, hrep⟩⟩
  · exact absurd rfl hne
  have hremove : TrailingOp t (.file (.removeFile [] (recoveryName tx.token))) :=
    ⟨rfl, .recovery, by simp, by rw [hp.token]⟩
  refine wp_weaken (fun _ _ h => .inr h.1) ?_
    (wp_releaseRecovery (R := replaced fs0 root t w1.who pair) hrep hremove trivial)
  rintro r w3 ⟨hrep3, -, htoken, hmarker⟩
  exact ⟨htoken.trans hp.token, .inr ⟨hmarker, hrep3⟩⟩

/-- A transaction dropped after the marker was replaced removes no generation. -/
lemma wp_drop_renamed (hw : Replaced fs0 root t who pair w.fs)
    (ht : tx.token = t) (hr : tx.markerReplaced = true) :
    wp Host (replaced fs0 root t who pair).Inside tx.drop
      (fun _ w' => Replaced fs0 root t who pair w'.fs) w := by
  subst ht
  refine wp_mono (fun _ _ h => h.1) (wp_drop (R := replaced fs0 root tx.token who pair) hw
    ⟨rfl, .markerTemporary, by simp, rfl⟩ (fun _ w1 hw1 => ?_) fun _ hne => absurd hr hne)
  -- the staging directory is gone
  unfold removePrivateGeneration Acts
  rw [Prog.wp_except_bind, attempt, Prog.wp_except_lift]
  have hseen := (hw1 : Replaced _ _ _ _ _ _).seen
  refine wp_look (looks_symlinkMetadata _) ⟨hw1, trivial⟩ ?_ fun _ => ?_
  · rw [walk_one hseen.root_eq hseen.root_kind, Replaced.vacant hw1]
    exact ⟨hw1, Beyond.refl _, fun _ _ => trivial⟩
  · exact ⟨hw1, Beyond.refl _, fun _ _ => trivial⟩

end T1Bridge.Store
