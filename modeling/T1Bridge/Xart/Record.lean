import T1Bridge.Xart.Store

/-! # What the record can be

`Holds allowed root fs` says that the record is, in the file system and in everything a crash can
leave of it, what `allowed` admits: no record, or a complete payload that is on the disk.  A
fetch returns what is admitted (`wp_fetch`).  A save adds its payload to what is admitted while
it runs, and leaves nothing else admitted when it succeeds (`wp_save`). -/

namespace T1Bridge.Xart

open FileSystem
open Prog (wp wp_bind wp_except_bind wp_mono wp_weaken)
open Effect (allocate change chmod sync write)

/-! ### Rules for calls -/

namespace World

/-- The world with another file system. -/
def withFs (w : World) (fs : FileSystem Name) (h : fs.Bounded) : World :=
  { w with fs := fs, bounded := h }

end World

variable {β : Type} {reads : Prop} {root : Ref} {w : World} {I : World → Prop}
  {payload : Packet} {Q : Except XartStoreError β → World → Prop} {f : Unit → XartM β}
  {metadata : Metadata} {o : FileOp Name}

section

variable {safe : World → XartOp → Prop}

/-- A call: it fails for a reason of its own, or it does what the file system says. -/
lemma wp_call {Q : Except FileError o.Value → World → Prop}
    (hsafe : safe w (.file o)) (hfault : (reads → ¬ (XartOp.file o).IsRead) →
      ∀ b h, Q (.error .failed) (w.withFs (w.fs.runAll (torn b o)) h))
    (hok : ∀ order v es, w.fs.meaning w.who order o = .ok (v, es) →
      ∀ h, Q (.ok v) (w.withFs (w.fs.runAll es) h))
    (herr : ∀ order e, w.fs.meaning w.who order o = .error e → Q (.error e) w) :
    wp (Host reads) safe (call o) Q w := by
  refine Prog.wp_perform hsafe fun c hc => ?_
  have key : ∀ h, Q (w.fs.exec w.who c.fault c.order o).1
      (w.withFs (w.fs.exec w.who c.fault c.order o).2 h) := by
    refine exec_cases (P := fun r => ∀ h, Q r.1 (w.withFs r.2 h)) ?_ ?_ ?_
    · intro b hb
      refine hfault (fun hreads hread => ?_) b
      rw [hc hreads hread] at hb
      cases hb
    · exact fun v es hm => hok c.order v es hm
    · exact fun e hm _ => herr c.order e hm
  exact key _

lemma wp_readStatus {Q : Option ℕ → World → Prop} (hsafe : safe w .effectiveUid) (hnone : Q none w)
    (hsome : Q (some w.who.uid) w) : wp (Host reads) safe readStatus Q w := by
  refine Prog.wp_perform hsafe fun c _ => ?_
  have key : ∀ fault : Option (List UInt8),
      Q (if fault.isSome then none else some w.who.uid) w := by
    intro fault
    cases fault with
    | none => exact hsome
    | some b => exact hnone
  exact key c.fault

variable {error : XartStoreError}

lemma wp_orElse {f : o.Value → XartM β} (hI : I w) (hfault : (reads → ¬ (XartOp.file o).IsRead) →
      ∀ b h, Q (.error error) (w.withFs (w.fs.runAll (torn b o)) h))
    (herr : ∀ order e, w.fs.meaning w.who order o = .error e → Q (.error error) w)
    (hok : ∀ order v es, w.fs.meaning w.who order o = .ok (v, es) → ∀ h,
      wp (Host reads) (fun w _ => I w) (f v).run Q (w.withFs (w.fs.runAll es) h)) :
    wp (Host reads) (fun w _ => I w) (orElse error o >>= f).run Q w := by
  unfold orElse attempt
  rw [wp_except_bind, wp_except_bind, Prog.wp_except_lift]
  exact wp_call hI hfault hok herr

lemma wp_effectiveUid {f : ℕ → XartM β} (hI : I w) (herr : Q (.error .storageUnavailable) w)
    (hok : wp (Host reads) (fun w _ => I w) (f w.who.uid).run Q w) :
    wp (Host reads) (fun w _ => I w) (effectiveUid >>= f).run Q w := by
  unfold effectiveUid
  rw [wp_except_bind, wp_except_bind, Prog.wp_except_lift]
  exact wp_readStatus hI herr hok

end

/-! ### The record and what a crash can make of it -/

def ValidPayload (payload : Packet) : Prop :=
  0 < payload.length ∧ payload.length ≤ xartMaxPayloadSize

/-- What the record may be: a payload, or nothing yet. -/
abbrev Allowed := Option Packet → Prop

variable {allowed : Allowed}

/-- The name of the record leads to nothing, or to a valid payload that is allowed. -/
def Recorded (allowed : Allowed) (fs : FileSystem Name) : Option Ref → Prop
  | none => allowed none
  | some r => ∃ payload, allowed (some payload) ∧ ValidPayload payload ∧ fs.PinnedFile r payload

/-- Whatever a crash leaves, the store holds an allowed record. -/
structure Holds (allowed : Allowed) (root : Ref) (fs : FileSystem Name) : Prop where
  root_eq : fs.root = some root
  rootSynced : fs.rootSynced = true
  kind : fs.kind root = .directory
  record : ∀ v, fs.Outcome root recordFileName v → Recorded allowed fs v

/-- The effect changes neither the name of the record nor a file that can be the record. -/
def Harmless (root : Ref) (fs : FileSystem Name) : Effect Name → Prop
  | .allocate _ | .sync _ | .chmod _ _ => True
  | .setRoot _ => False
  | .change d c => d = root → ∀ a ∈ c, a.1 ≠ recordFileName
  | .write r _ => ¬ fs.Outcome root recordFileName (some r)

section Holds

variable {allowed' : Allowed} {fs img : FileSystem Name} {e : Effect Name} {v : Option Ref}

lemma Recorded.mono (hmono : ∀ v, allowed v → allowed' v)
    (h : Recorded allowed fs v) : Recorded allowed' fs v := by
  cases v with
  | none => exact hmono none h
  | some r =>
    obtain ⟨payload, hallowed, hvalid, hpinned⟩ := h
    exact ⟨payload, hmono _ hallowed, hvalid, hpinned⟩

lemma Holds.mono (h : Holds allowed root fs) (hmono : ∀ v, allowed v → allowed' v) :
    Holds allowed' root fs :=
  { h with record := fun v hv => (h.record v hv).mono hmono }

lemma Holds.root_lt (h : Holds allowed root fs) (hb : fs.Bounded) : root < fs.next :=
  hb.root_lt root h.root_eq

/-- A harmless effect keeps what a name of the record can be. -/
lemma Recorded.run (hb : fs.Bounded) (he : Harmless root fs e)
    (hv : fs.Outcome root recordFileName v) (h : Recorded allowed fs v) :
    Recorded allowed (e.run fs) v := by
  cases v with
  | none => exact h
  | some r =>
    obtain ⟨payload, hallowed, hvalid, hpinned⟩ := h
    refine ⟨payload, hallowed, hvalid, hpinned.run (Nat.ne_of_lt (hb.outcome_lt hv)) ?_⟩
    rintro b rfl
    exact he hv

variable (h : Holds allowed root fs)

include h

lemma Holds.run (hb : fs.Bounded) (he : Harmless root fs e) : Holds allowed root (e.run fs) where
  root_eq := by
    cases e with
    | setRoot r => exact he.elim
    | _ => exact h.root_eq
  rootSynced := by
    cases e with
    | setRoot r => exact he.elim
    | _ => exact h.rootSynced
  kind := by
    rw [kind_run fun a _ => Nat.ne_of_lt (h.root_lt hb)]
    exact h.kind
  record := by
    intro v hv
    rcases hv.of_run (.inl (Nat.ne_of_lt (h.root_lt hb))) with hv | ⟨c, rfl, hmem⟩
    · exact (h.record v hv).run hb he hv
    · exact absurd rfl (he rfl _ hmem)

/-- A crash leaves a record that was possible before. -/
lemma Holds.crash (hc : Crash fs img) : Holds allowed root img where
  root_eq := (hc.root_eq h.rootSynced).trans h.root_eq
  rootSynced := hc.rootSynced
  kind := by rw [hc.kind, h.kind]
  record := by
    intro v hv
    have hv' := h.record v (hc.outcome hv)
    cases v with
    | none => exact hv'
    | some r =>
      obtain ⟨payload, hallowed, hvalid, hpinned⟩ := hv'
      exact ⟨payload, hallowed, hvalid, hpinned.crash hc⟩

lemma Holds.left (hl : Left fs img) : Holds allowed root img := by
  rcases hl with rfl | hc
  · exact h
  · exact h.crash hc

end Holds

/-! ### Fetching -/

section Fetch

variable {store : XartStore}

/-- What a fetch may return. -/
def FetchedFrom (reads : Prop) (allowed : Allowed) (store : XartStore) :
    Except XartStoreError FetchedXart → Prop
  | .ok fetched => ∃ v, allowed v ∧ (v.getD []).length ≤ xartMaxPayloadSize ∧
      fetched = ⟨wireBlob (v.getD []), store.volumeId, store.volumeExternal⟩
  | .error error => reads → error ≠ .invalidStoredBlob

lemma meaning_openRecord (h : Holds allowed root w.fs) (order : List Name) :
    w.fs.meaning w.who order (.openFile [recordFileName]) =
      match w.fs.lookup root recordFileName with
      | none => .error .notFound
      | some r => if w.fs.kind r = .symlink then .error .failed else .ok (r, []) := by
  simp only [meaning, walk, h.root_eq, walkFrom, h.kind, if_true]
  cases w.fs.lookup root recordFileName <;> rfl

variable {r : Ref}

lemma wp_validateRecordMetadata (hunavailable : Q (.error .storageUnavailable) w)
    (hunsafeStorage : Q (.error .unsafeStorage) w) (hok : metadata.attributes.kind = .regular →
      wp (Host reads) (fun w' _ => w' = w) (f ()).run Q w) :
    wp (Host reads) (fun w' _ => w' = w) (validateRecordMetadata metadata >>= f).run Q w := by
  unfold validateRecordMetadata
  split
  · exact hunsafeStorage
  next hmetadata =>
  have hkind : metadata.attributes.kind = .regular := by
    by_contra hkind
    exact hmetadata (.inl hkind)
  rw [bind_assoc]
  refine wp_effectiveUid rfl hunavailable ?_
  split
  · exact hunsafeStorage
  · exact hok hkind

/-- The record is read as it is, or the read fails. -/
lemma wp_readRecord (hvalid : ValidPayload payload)
    (hbytes : w.fs.bytes r = payload) (hkind : w.fs.kind r = .regular)
    (hallowed : allowed (some payload)) : wp (Host reads) (fun w' _ => w' = w)
      (readRecord r payload.length >>= fun payload => ExceptT.mk (pure (store.fetched payload))).run
      (fun result w' => w' = w ∧ FetchedFrom reads allowed store result) w := by
  have hmeaning : ∀ order, w.fs.meaning w.who order (.read r) = .ok (payload, []) := by
    intro order
    rw [← hbytes]
    exact if_neg (by rw [hkind]; decide)
  unfold readRecord
  rw [bind_assoc]
  refine wp_orElse rfl ?_ ?_ ?_
  · exact fun hfault _ _ => ⟨rfl, fun hreads => absurd trivial (hfault hreads)⟩
  · intro order error hm
    rw [hmeaning] at hm
    cases hm
  intro order v es hm hb
  rw [hmeaning] at hm
  cases hm
  rw [if_neg (Nat.lt_irrefl _), bind_assoc]
  refine wp_orElse rfl ?_ ?_ ?_
  · exact fun _ _ _ => ⟨rfl, fun _ => nofun⟩
  · exact fun _ _ _ => ⟨rfl, fun _ => nofun⟩
  intro order' v' es' hm' hb'
  have hm'' := (hmeaning order').symm.trans hm'
  cases hm''
  rw [if_neg (Nat.lt_irrefl _)]
  change _ ∧ FetchedFrom reads allowed store (store.fetched (payload.take payload.length))
  have hmax : xartMaxPayloadSize = 16367 := rfl
  have hlength := hvalid.2
  rw [List.take_length, XartStore.fetched, if_pos (by omega)]
  exact ⟨rfl, some payload, hallowed, hvalid.2, rfl⟩

lemma wp_fetchOpened (hvalid : ValidPayload payload)
    (hbytes : w.fs.bytes r = payload) (hallowed : allowed (some payload)) :
    wp (Host reads) (fun w' _ => w' = w) (fetchOpened store r).run
      (fun result w' => w' = w ∧ FetchedFrom reads allowed store result) w := by
  have hlength : (w.fs.stat r).length = payload.length := by rw [← hbytes]; rfl
  refine wp_orElse rfl (fun _ _ _ => ⟨rfl, fun _ => nofun⟩) (fun _ _ _ => ⟨rfl, fun _ => nofun⟩) ?_
  intro order metadata es hm hb
  cases hm
  refine wp_validateRecordMetadata ⟨rfl, fun _ => nofun⟩ ⟨rfl, fun _ => nofun⟩ fun hkind => ?_
  have hpos := hvalid.1
  have hmax := hvalid.2
  rw [hlength, if_neg (by omega)]
  exact wp_readRecord hvalid hbytes hkind hallowed

/-- A fetch returns what the record may be, and refuses it only when it cannot be read. -/
lemma wp_fetch (h : Holds allowed root w.fs) :
    wp (Host reads) (fun w' _ => w' = w) (fetch store).run
      (fun result w' => w' = w ∧ FetchedFrom reads allowed store result) w := by
  have hlive := h.record _ (outcome_lookup w.fs root recordFileName)
  unfold fetch attempt
  rw [wp_except_bind, Prog.wp_except_lift]
  refine wp_call rfl ?_ ?_ ?_
  · exact fun _ _ _ => ⟨rfl, fun _ => nofun⟩
  all_goals
    intro order
    rw [meaning_openRecord h]
    cases hlookup : w.fs.lookup root recordFileName <;> rw [hlookup] at hlive
  · rintro r es ⟨⟩
  · intro r es hm hb
    obtain ⟨payload, hallowed, hvalid, hpinned⟩ := hlive
    dsimp only at hm
    split at hm <;> cases hm
    exact wp_fetchOpened hvalid hpinned.2 hallowed
  · rintro _ ⟨⟩
    exact ⟨rfl, none, hlive, Nat.zero_le _, rfl⟩
  · intro error hm
    dsimp only at hm
    split at hm <;> cases hm
    exact ⟨rfl, fun _ => nofun⟩

end Fetch

/-! ### Saving -/

/-- Between the frames of a connection: nothing was received or sent since `log`, and the record
is what `allowed` admits. -/
def At (log : List Happening) (allowed : Allowed) (root : Ref) (w : World) : Prop :=
  w.log = log ∧ Holds allowed root w.fs

/-- The payload is admitted besides what is admitted already. -/
def Allowed.add (allowed : Allowed) (payload : Packet) : Allowed :=
  fun v => allowed v ∨ v = some payload

/-- The only record that is admitted. -/
def Allowed.only (payload : Packet) : Allowed := fun v => v = some payload

/-- The temporary file `t`; it cannot be the record yet. -/
structure Draft (root : Ref) (name : Name) (t : Ref) (fs : FileSystem Name) : Prop where
  lookup : fs.lookup root name = some t
  apart : ¬ fs.Outcome root recordFileName (some t)

lemma temporaryName_ne (process sequence : ℕ) :
    temporaryName process sequence ≠ recordFileName := by
  intro h
  have hhead : (temporaryName process sequence).head? = recordFileName.head? := by rw [h]
  exact absurd hhead (by decide : some (46 : UInt8) ≠ some 114)

variable {log : List Happening} {name : Name} {t : Ref} {fs : FileSystem Name} {blob : Packet}

lemma At.run (h : At log allowed root w) {e : Effect Name} (he : Harmless root w.fs e)
    (hb : (w.fs.runAll [e]).Bounded) : At log allowed root (w.withFs (w.fs.runAll [e]) hb) :=
  ⟨h.1, h.2.run w.bounded he⟩

lemma At.chmod (h : At log allowed root w) (r : Ref) (mode : ℕ)
    (hb : (w.fs.runAll [.chmod r mode]).Bounded) :
    At log allowed root (w.withFs (w.fs.runAll [.chmod r mode]) hb) :=
  h.run (e := .chmod r mode) trivial hb

lemma At.sync (h : At log allowed root w) (r : Ref) (hb : (w.fs.runAll [.sync r]).Bounded) :
    At log allowed root (w.withFs (w.fs.runAll [.sync r]) hb) :=
  h.run (e := .sync r) trivial hb

lemma directoryAt_root (h : Holds allowed root fs) : fs.directoryAt [] = .ok root := by
  have hwalk : fs.walk [] = .ok root := by rw [walk, h.root_eq]; rfl
  rw [directoryAt, hwalk]
  exact if_pos h.kind

lemma wp_validateDirectoryIdentity (hI : I w) (herror : ∀ error, Q (.error error) w)
    (hok : wp (Host reads) (fun w _ => I w) (f ()).run Q w) :
    wp (Host reads) (fun w _ => I w) (validateDirectoryIdentity metadata >>= f).run Q w := by
  unfold validateDirectoryIdentity
  split
  · exact herror _
  rw [bind_assoc]
  refine wp_effectiveUid hI (herror _) ?_
  split
  · exact herror _
  · exact hok

lemma wp_prepareDirectory (h : At log allowed root w) :
    wp (Host reads) (fun w _ => At log allowed root w) prepareDirectory.run
      (fun r w' => At log allowed root w' ∧ ∀ d, r = .ok d → d = root) w := by
  refine wp_orElse h (fun _ _ _ => ⟨h, nofun⟩) (fun _ _ _ => ⟨h, nofun⟩) ?_
  intro order v es hm hb
  obtain ⟨-, rfl⟩ := meaning_createRoot h.2.root_eq hm
  refine wp_orElse h (fun _ _ _ => ⟨h, nofun⟩) (fun _ _ _ => ⟨h, nofun⟩) ?_
  intro order directory es hm hb
  have hopen : w.fs.meaning w.who order (.openDirectory []) = .ok (root, []) := by
    dsimp only [meaning]
    rw [directoryAt_root h.2]
  cases hopen.symm.trans hm
  refine wp_orElse h (fun _ _ _ => ⟨h, nofun⟩) (fun _ _ _ => ⟨h, nofun⟩) ?_
  intro order metadata es hm hb
  cases hm
  refine wp_validateDirectoryIdentity h (fun _ => ⟨h, nofun⟩) ?_
  refine wp_orElse h (fun _ _ _ => ⟨h, nofun⟩) (fun _ _ _ => ⟨h, nofun⟩) ?_
  intro order v es hm hb
  cases hm
  have h' := h.chmod root 0o700 hb
  refine wp_orElse h' (fun _ _ _ => ⟨h', nofun⟩) (fun _ _ _ => ⟨h', nofun⟩) ?_
  intro order metadata es hm hb
  cases hm
  split
  · exact ⟨h', nofun⟩
  · exact ⟨h', fun d hd => (Except.ok.inj hd).symm⟩

lemma Holds.create (h : Holds allowed root fs) (hb : fs.Bounded) (hname : name ≠ recordFileName)
    (a : Attributes) :
    Holds allowed root (fs.runAll [.allocate a, .change root [(name, some fs.next)]]) ∧
      Draft root name fs.next (fs.runAll [.allocate a, .change root [(name, some fs.next)]]) ∧
      (fs.runAll [.allocate a, .change root [(name, some fs.next)]]).bytes fs.next = [] := by
  have hallocated : Holds allowed root ((allocate a).run fs) := h.run hb trivial
  have hroot : root ≠ fs.next := Nat.ne_of_lt (h.root_lt hb)
  have hroot' : root ≠ ((allocate a).run fs).next :=
    Nat.ne_of_lt (hallocated.root_lt (hb.allocate a))
  change Holds allowed root ((change root _).run ((allocate a).run fs)) ∧
    Draft root name fs.next ((change root _).run ((allocate a).run fs)) ∧ _
  refine ⟨hallocated.run (hb.allocate a) ?_, ⟨?_, ?_⟩, ?_⟩
  · intro _ x hx
    cases List.mem_singleton.mp hx
    exact hname
  · rw [lookup_change_one, if_pos ⟨rfl, rfl⟩]
  · intro hout
    rcases hout.of_run (.inl hroot') with hout | ⟨c, hc, hmem⟩
    · rcases hout.of_run (.inl hroot) with hout | ⟨c, hc, -⟩
      · exact Nat.lt_irrefl _ (hb.outcome_lt hout)
      · cases hc
    · cases hc
      cases List.mem_singleton.mp hmem
      exact hname rfl
  · change ((change root _).run ((allocate a).run fs)).bytes fs.next = []
    rw [bytes_change, bytes_allocate, if_pos rfl]

lemma wp_createTemporaryFile (process tries sequence : ℕ) (h : At log allowed root w) :
    wp (Host reads) (fun w _ => At log allowed root w) (createTemporaryFile process tries sequence)
      (fun r w' => At log allowed root w' ∧ ∀ t name, r.1 = .ok (t, name) →
        name ≠ recordFileName ∧ Draft root name t w'.fs ∧ w'.fs.bytes t = []) w := by
  induction tries generalizing sequence with
  | zero => exact ⟨h, nofun⟩
  | succ tries ih =>
    unfold createTemporaryFile
    rw [wp_bind]
    refine wp_call h (fun _ _ _ => ⟨h, nofun⟩) ?_ ?_
    · intro order v es hm hb
      obtain ⟨d, hd, -, rfl, rfl⟩ := meaning_createFile hm
      cases (directoryAt_root h.2).symm.trans hd
      have hname := temporaryName_ne process sequence
      obtain ⟨hholds, hdraft, hbytes⟩ := h.2.create w.bounded hname ⟨.regular, 0o600, w.who⟩
      refine ⟨⟨h.1, hholds⟩, ?_⟩
      rintro t name ⟨⟩
      exact ⟨hname, hdraft, hbytes⟩
    · intro order error _
      cases error with
      | alreadyExists => exact ih _
      | notFound | failed => exact ⟨h, nofun⟩

lemma Draft.sync (h : Draft root name t fs) (hroot : root ≠ fs.next) (r : Ref) :
    Draft root name t ((sync r).run fs) := by
  refine ⟨by rw [lookup_sync, h.lookup], fun hout => ?_⟩
  rcases hout.of_run (.inl hroot) with hout | ⟨c, hc, -⟩
  · exact h.apart hout
  · cases hc

/-- The rename: the finished file is now one of the records that are admitted, and the one that
is seen. -/
lemma Holds.rename (h : Holds allowed root fs) (hb : fs.Bounded) (hname : name ≠ recordFileName)
    (hlookup : fs.lookup root name = some t) (hvalid : ValidPayload payload)
    (hpinned : fs.PinnedFile t payload) {c : Change Name}
    (hc : c = [(name, none), (recordFileName, some t)]) :
    Holds (allowed.add payload) root ((change root c).run fs) ∧
      ((change root c).run fs).lookup root recordFileName = some t ∧
      ((change root c).run fs).PinnedFile t payload := by
  have hpinned' : ((change root c).run fs).PinnedFile t payload :=
    hpinned.run (Nat.ne_of_lt (hb.lookup_lt hlookup).2) nofun
  refine ⟨⟨h.root_eq, h.rootSynced, h.kind, ?_⟩, ?_, hpinned'⟩
  · intro v hv
    rcases hv.of_run (.inl (Nat.ne_of_lt (h.root_lt hb))) with hv' | ⟨c', hc', hmem⟩
    · have hold : Recorded (allowed.add payload) fs v := (h.record v hv').mono fun _ => .inl
      cases v with
      | none => exact hold
      | some r =>
        obtain ⟨payload', hallowed, hvalid', hpinned''⟩ := hold
        refine ⟨payload', hallowed, hvalid', hpinned''.run ?_ nofun⟩
        exact Nat.ne_of_lt (hb.outcome_lt hv')
    · cases hc'
      subst hc
      rcases List.mem_pair.mp hmem with heq | heq
      · exact absurd (congrArg Prod.fst heq).symm hname
      · cases heq
        exact ⟨payload, .inr rfl, hvalid, hpinned'⟩
  · subst hc
    rw [lookup_change_two, if_pos ⟨rfl, rfl⟩]

/-- The synchronisation of the directory leaves the record that is seen. -/
lemma Holds.settle (h : Holds allowed root fs) (hb : fs.Bounded)
    (hlookup : fs.lookup root recordFileName = some t) (hvalid : ValidPayload payload)
    (hpinned : fs.PinnedFile t payload) :
    Holds (Allowed.only payload) root ((sync root).run fs) := by
  refine ⟨h.root_eq, h.rootSynced, h.kind, ?_⟩
  intro v hv
  rw [hv.of_sync, hlookup]
  refine ⟨payload, rfl, hvalid, hpinned.run ?_ nofun⟩
  exact Nat.ne_of_lt (hb.lookup_lt hlookup).2

lemma At.add (h : At log allowed root w) (payload : Packet) :
    At log (allowed.add payload) root w := ⟨h.1, h.2.mono fun _ hv => .inl hv⟩

/-- What a save leaves: nothing but its payload once it succeeds. -/
def Saved (log : List Happening) (allowed : Allowed) (payload : Packet) (root : Ref)
    (result : Except XartStoreError Unit) (w : World) : Prop :=
  At log (allowed.add payload) root w ∧ (result = .ok () → Holds (Allowed.only payload) root w.fs)

lemma wp_orElse_last {error : XartStoreError}
    {Q : Except XartStoreError o.Value → World → Prop} (hI : I w)
    (hfault : ∀ b h, Q (.error error) (w.withFs (w.fs.runAll (torn b o)) h))
    (herr : ∀ order e, w.fs.meaning w.who order o = .error e → Q (.error error) w)
    (hok : ∀ order v es, w.fs.meaning w.who order o = .ok (v, es) → ∀ h,
      Q (.ok v) (w.withFs (w.fs.runAll es) h)) :
    wp (Host reads) (fun w _ => I w) (orElse error o).run Q w := by
  rw [← bind_pure (orElse error o)]
  exact wp_orElse hI (fun _ => hfault) herr hok

lemma wp_writeTemporary (h : At log allowed root w) (hdraft : Draft root name t w.fs)
    (hbytes : w.fs.bytes t = []) :
    wp (Host reads) (fun w _ => At log allowed root w) (writeTemporary t payload).run
      (fun r w' => At log allowed root w' ∧ (r = .ok () →
        Draft root name t w'.fs ∧ w'.fs.PinnedFile t payload)) w := by
  refine wp_orElse h (fun _ _ _ => ⟨h, nofun⟩) (fun _ _ _ => ⟨h, nofun⟩) ?_
  intro order v es hm hb
  cases hm
  have h1 := h.chmod t 0o600 hb
  have hdraft1 : Draft root name t ((chmod t 0o600).run w.fs) := ⟨hdraft.lookup, hdraft.apart⟩
  -- a failed write leaves any bytes, in a file that cannot be the record
  have hwrite : ∀ b, Harmless root ((chmod t 0o600).run w.fs) (.write t b) :=
    fun _ => hdraft1.apart
  refine wp_orElse h1 (fun _ b hb' => ⟨h1.run (hwrite b) hb', nofun⟩) (fun _ _ _ => ⟨h1, nofun⟩) ?_
  intro order v es hm hb'
  cases hm
  have h2 := h1.run (hwrite (w.fs.bytes t ++ payload)) hb'
  have hdraft2 : Draft root name t ((write t (w.fs.bytes t ++ payload)).run
      ((chmod t 0o600).run w.fs)) := ⟨hdraft.lookup, hdraft.apart⟩
  refine wp_orElse_last h2 (fun _ _ => ⟨h2, nofun⟩) (fun _ _ _ => ⟨h2, nofun⟩) ?_
  intro order v es hm hb''
  cases hm
  refine ⟨h2.sync t hb'', fun _ => ⟨hdraft2.sync (Nat.ne_of_lt (h2.2.root_lt hb')) t, ?_⟩⟩
  have hwritten : ((write t (w.fs.bytes t ++ payload)).run
      ((chmod t 0o600).run w.fs)).bytes t = payload := by
    rw [bytes_write, if_pos rfl, hbytes, List.nil_append]
  have hsynced : ((sync t).run ((write t (w.fs.bytes t ++ payload)).run
      ((chmod t 0o600).run w.fs))).PinnedFile t _ := pinnedFile_sync t
  rw [hwritten] at hsynced
  exact hsynced

lemma wp_replaceRecord (hvalid : ValidPayload payload) (hname : name ≠ recordFileName)
    (h : At log allowed root w) (hdraft : Draft root name t w.fs) (hbytes : w.fs.bytes t = []) :
    wp (Host reads) (fun w _ => At log (allowed.add payload) root w)
      (replaceRecord root t name payload).run (Saved log allowed payload root) w := by
  have failed : ∀ {w : World} {error : XartStoreError}, At log (allowed.add payload) root w →
      Saved log allowed payload root (.error error) w := fun h => ⟨h, nofun⟩
  refine Prog.wp_except_bind.mpr ?_
  refine wp_weaken (fun _ _ h => At.add h payload) ?_ (wp_writeTemporary h hdraft hbytes)
  rintro (error | _) w1 ⟨h1, hwritten⟩
  · exact failed (h1.add payload)
  obtain ⟨hdraft1, hpinned⟩ := hwritten rfl
  refine wp_orElse (h1.add payload) (fun _ _ _ => failed (h1.add payload))
    (fun _ _ _ => failed (h1.add payload)) ?_
  intro order v es hm hb
  obtain ⟨d, r, hd, hr, hmoved⟩ := meaning_rename hm
  cases (directoryAt_root h1.2).symm.trans hd
  cases hdraft1.lookup.symm.trans hr
  rcases hmoved with ⟨hrecord, -⟩ | ⟨-, rfl⟩
  · exact absurd (hrecord ▸ outcome_lookup w1.fs root recordFileName) hdraft1.apart
  obtain ⟨hholds, hseen, hpinned'⟩ :=
    h1.2.rename w1.bounded hname hdraft1.lookup hvalid hpinned rfl
  have h2 : At log (allowed.add payload) root (w1.withFs _ hb) := ⟨h1.1, hholds⟩
  refine wp_orElse_last h2 (fun _ _ => failed h2) (fun _ _ _ => failed h2) ?_
  intro order v es hm hb'
  cases hm
  exact ⟨h2.sync root hb', fun _ => hholds.settle hb hseen hvalid hpinned'⟩

lemma validateWireBlob_ok (h : validateWireBlob blob = .ok payload) :
    ValidPayload payload ∧ blob = wireBlob payload := by
  unfold validateWireBlob at h
  split at h
  · cases h
  split at h
  · cases h
  next hsize =>
  cases h
  simp only [not_or, not_not] at hsize
  have hdrop : (blob.drop 4).length = blob.length - 4 := List.length_drop
  refine ⟨⟨?_, ?_⟩, ?_⟩
  · omega
  · omega
  have hlength : (blob.take 4).length = 4 := by rw [List.length_take]; omega
  have hword := leBytes_fromLe (blob.take 4)
  rw [hlength] at hword
  rw [wireBlob, hdrop, hsize.2.2, hword, List.take_append_drop]

lemma wp_removeTemporary (hname : name ≠ recordFileName) (h : At log allowed root w) :
    wp (Host reads) (fun w _ => At log allowed root w) (call (.removeFile [] name))
      (fun _ w' => At log allowed root w') w := by
  refine wp_call h (fun _ _ _ => h) ?_ (fun _ _ _ => h)
  intro order v es hm hb
  obtain ⟨d, r, -, -, rfl⟩ := meaning_remove (.inl rfl) hm
  refine h.run (e := .change d [(name, none)]) ?_ hb
  intro _ a ha
  cases List.mem_singleton.mp ha
  exact hname

/-- A save admits its payload while it runs, and nothing else once it has succeeded. -/
lemma wp_save (process sequence : ℕ) (hblob : validateWireBlob blob = .ok payload)
    (h : At log allowed root w) : wp (Host reads) (fun w _ => At log (allowed.add payload) root w)
      (save process sequence blob) (fun r w' => Saved log allowed payload root r.1 w') w := by
  have failed : ∀ {w : World} {error : XartStoreError}, At log allowed root w →
      Saved log allowed payload root (.error error) w := fun h => ⟨h.add payload, nofun⟩
  have hvalid := (validateWireBlob_ok hblob).1
  unfold save
  rw [hblob]
  refine (wp_bind _ _).mpr ?_
  refine wp_weaken (fun _ _ h => At.add h payload) ?_ (wp_prepareDirectory h)
  rintro (error | directory) w1 ⟨h1, hdirectory⟩
  · exact failed h1
  cases hdirectory directory rfl
  refine (wp_bind _ _).mpr ?_
  refine wp_weaken (fun _ _ h => At.add h payload) ?_
    (wp_createTemporaryFile process 64 sequence h1)
  rintro ⟨error | ⟨t, name⟩, sequence'⟩ w2 ⟨h2, hcreated⟩
  · exact failed h2
  obtain ⟨hname, hdraft, hbytes⟩ := hcreated t name rfl
  refine (wp_bind _ _).mpr ?_
  refine wp_mono ?_ (wp_replaceRecord hvalid hname h2 hdraft hbytes)
  rintro (error | _) w3 h3
  · refine (wp_bind _ _).mpr ?_
    refine wp_mono ?_ (wp_removeTemporary hname h3.1)
    exact fun _ _ h4 => ⟨h4, nofun⟩
  · exact h3

end T1Bridge.Xart
