import T1Bridge.Lib.Crash

/-! # Keeping files pinned

`Sole fs d n r` says that the inode `r` has no name but `n` in `d`, in the file system and in
everything a crash can leave.  A `PinnedMember` is a file that is on the disk for good: its
name, its bytes and its attributes, with no second name.  Effects elsewhere keep it
(`PinnedMember.run`), and a call keeps every pinned entry whose name it does not use
(`meaning_pinned`). -/

namespace FileSystem

open Function (update_of_ne update_self)

variable {ν : Type} [DecidableEq ν] {fs img : FileSystem ν} {d r : Ref} {n : ν}

/-- The directory `d` has `r` under the name `n`, or a crash can leave it so. -/
def Mentions (fs : FileSystem ν) (d : Ref) (n : ν) (r : Ref) : Prop :=
  (fs.directory d).durable.lookup n = some r ∨ ∃ c ∈ (fs.directory d).pending, (n, some r) ∈ c

lemma Mentions.of_lookup (h : fs.lookup d n = some r) : fs.Mentions d n r :=
  Entries.mem_of_lookup_applyAll h

lemma Crash.mentions (hc : Crash fs img) (h : img.lookup d n = some r) : fs.Mentions d n r := by
  obtain ⟨kept, hsub, hd⟩ := hc.directory d
  rw [FileSystem.lookup, hd] at h
  have hkept : ((fs.directory d).durable.applyAll kept).lookup n = some r := h
  rcases Entries.mem_of_lookup_applyAll hkept with h | ⟨c, hmem, hc⟩
  · exact .inl h
  · exact .inr ⟨c, hsub.subset hmem, hc⟩

lemma Bounded.mentions_lt (hb : fs.Bounded) (h : fs.Mentions d n r) : r < fs.next := by
  rcases h with h | ⟨c, hc, hmem⟩
  · exact (hb.durable_lt d n r h).2
  · exact (hb.pending_lt d c hc).2 n r hmem

variable {e : Effect ν} {v : Option Ref}

/-! ### Everything a name can still mean -/

/-- The name means `v` on the disk, or a pending change makes it mean `v`. -/
def Outcome (fs : FileSystem ν) (d : Ref) (n : ν) (v : Option Ref) : Prop :=
  (fs.directory d).durable.lookup n = v ∨ ∃ c ∈ (fs.directory d).pending, (n, v) ∈ c

lemma outcome_lookup (fs : FileSystem ν) (d : Ref) (n : ν) : fs.Outcome d n (fs.lookup d n) := by
  rcases Entries.outcome_applyAll (fs.directory d).durable (fs.directory d).pending n with h | h
  · exact .inl h.symm
  · exact .inr h

/-- A crash adds nothing to what a name can mean. -/
lemma Crash.outcome (hc : Crash fs img) (h : img.Outcome d n v) : fs.Outcome d n v := by
  obtain ⟨kept, hsub, hd⟩ := hc.directory d
  unfold Outcome at h
  rw [hd] at h
  rcases h with h | ⟨c, hmem, -⟩
  · rcases Entries.outcome_applyAll (fs.directory d).durable kept n with hk | ⟨c, hmem, hk⟩
    · exact .inl (hk.symm.trans h)
    · exact .inr ⟨c, hsub.subset hmem, h ▸ hk⟩
  · cases hmem

lemma Outcome.of_run (hd : d ≠ fs.next ∨ v.isSome = true)
    (h : (e.run fs).Outcome d n v) : fs.Outcome d n v ∨ ∃ c, e = .change d c ∧ (n, v) ∈ c := by
  cases e with
  | allocate a =>
    by_cases hnext : d = fs.next
    · subst hnext
      obtain ⟨r, rfl⟩ := Option.isSome_iff_exists.mp (hd.resolve_left (absurd rfl))
      simp [Outcome, Effect.run] at h
    · simp only [Outcome, Effect.run, update_of_ne hnext] at h
      exact .inl h
  | change d' c =>
    by_cases hd' : d = d'
    · subst hd'
      simp only [Outcome, Effect.run, update_self, Directory.change, List.mem_append,
        List.mem_singleton] at h
      rcases h with h | ⟨b, hb | rfl, hmem⟩
      · exact .inl (.inl h)
      · exact .inl (.inr ⟨b, hb, hmem⟩)
      · exact .inr ⟨b, rfl, hmem⟩
    · simp only [Outcome, Effect.run, update_of_ne hd'] at h
      exact .inl h
  | sync q =>
    by_cases hq : d = q
    · subst hq
      simp only [Outcome, Effect.run, update_self] at h
      rcases h with h | ⟨c, hc, -⟩
      · rw [← h]
        exact .inl (outcome_lookup fs d n)
      · cases hc
    · simp only [Outcome, Effect.run, update_of_ne hq] at h
      exact .inl h
  | write | chmod | setRoot => exact .inl h

lemma Mentions.of_run (h : (e.run fs).Mentions d n r) :
    fs.Mentions d n r ∨ ∃ c, e = .change d c ∧ (n, some r) ∈ c := Outcome.of_run (.inr rfl) h

/-- After a synchronisation a name means what it was seen to mean. -/
lemma Outcome.of_sync (h : ((Effect.sync d).run fs).Outcome d n v) : v = fs.lookup d n := by
  simp only [Outcome, Effect.run, update_self] at h
  rcases h with h | ⟨c, hc, -⟩
  · exact h.symm
  · cases hc

lemma Bounded.outcome_lt (hb : fs.Bounded) (h : fs.Outcome d n (some r)) : r < fs.next :=
  hb.mentions_lt h

/-! ### Inodes with one name -/

/-- No directory has `r` under another name than `n` of `d`, nor can a crash leave it so. -/
def Sole (fs : FileSystem ν) (d : Ref) (n : ν) (r : Ref) : Prop :=
  ∀ e m, fs.Mentions e m r → e = d ∧ m = n

lemma Sole.run (h : fs.Sole d n r)
    (he : ∀ d' c, e = .change d' c → ∀ x ∈ c, x.2 = some r → d' = d ∧ x.1 = n) :
    (e.run fs).Sole d n r := by
  intro d' m hm
  rcases hm.of_run with hm | ⟨c, rfl, hmem⟩
  · exact h d' m hm
  · exact he d' c rfl _ hmem rfl

lemma Bounded.sole_next (hb : fs.Bounded) (a : Attributes) (d : Ref) (n : ν) :
    ((Effect.allocate a).run fs).Sole d n fs.next := by
  intro d' m hm
  rcases hm.of_run with hm | ⟨c, hc, -⟩
  · exact absurd (hb.mentions_lt hm) (Nat.lt_irrefl _)
  · cases hc

lemma Sole.links (h : fs.Sole d n r) (hb : fs.Bounded) (hl : fs.lookup d n = some r) :
    fs.links r = 1 :=
  (links_eq_one_iff hb hl).mpr fun d' m hm => h d' m (Mentions.of_lookup hm)

lemma Sole.crash (h : fs.Sole d n r) (hc : Crash fs img) : img.Sole d n r := by
  rintro d' m (hm | ⟨c, hmem, -⟩)
  · refine h d' m (hc.mentions ?_)
    rw [FileSystem.lookup, Directory.live, hc.settled.pending]
    exact hm
  · rw [hc.settled.pending] at hmem
    cases hmem

/-! ### New files -/

/-- The file `r` as it is seen: its only name, its bytes and its attributes. -/
structure Member (fs : FileSystem ν) (d : Ref) (n : ν) (r : Ref) (b : List UInt8)
    (a : Attributes) : Prop where
  lookup : fs.lookup d n = some r
  bytes : fs.bytes r = b
  attributes : fs.attributes r = a
  sole : fs.Sole d n r
  directory_lt : d < fs.next
  lt : r < fs.next

lemma Member.create (hb : fs.Bounded) (hd : d < fs.next) (n : ν) (a : Attributes) :
    (fs.runAll [.allocate a, .change d [(n, some fs.next)]]).Member d n fs.next [] a where
  lookup := by
    simp only [runAll, List.foldl_cons, List.foldl_nil]
    rw [lookup_change_one, if_pos ⟨rfl, rfl⟩]
  bytes := by
    simp only [runAll, List.foldl_cons, List.foldl_nil]
    rw [bytes_change, bytes_allocate, if_pos rfl]
  attributes := by
    change ((Effect.allocate a).run fs).attributes fs.next = a
    rw [attributes_allocate, if_pos rfl]
  sole := by
    change ((Effect.change d _).run ((Effect.allocate a).run fs)).Sole d n fs.next
    refine (hb.sole_next a d n).run ?_
    rintro d' c ⟨⟩ x hx -
    cases List.mem_singleton.mp hx
    exact ⟨rfl, rfl⟩
  directory_lt := Nat.lt_succ_of_lt hd
  lt := Nat.lt_succ_self _

variable {b : List UInt8} {a : Attributes}

lemma Member.chmod (h : fs.Member d n r b a) (m : ℕ) :
    ((Effect.chmod r m).run fs).Member d n r b { a with mode := m } :=
  { h with
    attributes := by rw [attributes_chmod, if_pos rfl, h.attributes]
    sole := h.sole.run nofun }

lemma Member.write (h : fs.Member d n r b a) (b' : List UInt8) :
    ((Effect.write r b').run fs).Member d n r b' a :=
  { h with
    bytes := by rw [bytes_write, if_pos rfl]
    sole := h.sole.run nofun }

lemma Member.sync (h : fs.Member d n r b a) (q : Ref) : ((Effect.sync q).run fs).Member d n r b a :=
  { h with
    lookup := by rw [lookup_sync, h.lookup]
    bytes := by rw [bytes_sync, h.bytes]
    sole := h.sole.run nofun }

/-! ### Files on the disk for good -/

/-- A file, its content and its only name are on the disk. -/
structure PinnedMember (fs : FileSystem ν) (d : Ref) (n : ν) (r : Ref) (b : List UInt8)
    (a : Attributes) : Prop where
  entry : fs.PinnedEntry d n (some r)
  file : fs.PinnedFile r b
  attributes : fs.attributes r = a
  sole : fs.Sole d n r
  directory_lt : d < fs.next
  lt : r < fs.next

/-- A file is on the disk for good once it and its directory were synchronised. -/
lemma Member.pinned (h : fs.Member d n r b a) :
    ((Effect.sync d).run ((Effect.sync r).run fs)).PinnedMember d n r b a where
  entry := pinnedEntry_of_lookup (by rw [lookup_sync, h.lookup])
  file := by
    rw [← h.bytes]
    refine (pinnedFile_sync r).run (Nat.ne_of_lt h.lt) fun b' hb' => ?_
    cases hb'
  attributes := h.attributes
  sole := ((h.sync r).sync d).sole
  directory_lt := h.directory_lt
  lt := h.lt

/-- The effect touches neither the name `n` of `d` nor the inode `r`. -/
def Effect.Spares (d : Ref) (n : ν) (r : Ref) : Effect ν → Prop
  | .allocate _ | .sync _ | .setRoot _ => True
  | .change d' c => ∀ x ∈ c, (d' = d → x.1 ≠ n) ∧ x.2 ≠ some r
  | .write q _ | .chmod q _ => q ≠ r

lemma next_le_run (e : Effect ν) : fs.next ≤ (e.run fs).next := by
  cases e with
  | allocate a => exact Nat.le_succ _
  | _ => exact Nat.le_refl _

lemma next_le_runAll (es : List (Effect ν)) : fs.next ≤ (fs.runAll es).next := by
  induction es generalizing fs with
  | nil => exact Nat.le_refl _
  | cons e es ih => exact Nat.le_trans (next_le_run e) ih

lemma attributes_run (hr : r < fs.next) (he : ∀ m, e ≠ .chmod r m) :
    (e.run fs).attributes r = fs.attributes r := by
  cases e with
  | allocate a => rw [attributes_allocate, if_neg (Nat.ne_of_lt hr)]
  | chmod q m =>
    rw [attributes_chmod, if_neg]
    rintro rfl
    exact he m rfl
  | _ => rfl

lemma PinnedMember.run (h : fs.PinnedMember d n r b a)
    (he : e.Spares d n r) : (e.run fs).PinnedMember d n r b a where
  entry := by
    refine h.entry.run (Nat.ne_of_lt h.directory_lt) ?_
    rintro c rfl x hx
    exact (he x hx).1 rfl
  file := by
    refine h.file.run (Nat.ne_of_lt h.lt) ?_
    rintro b' rfl
    exact he rfl
  attributes := by
    rw [attributes_run h.lt]
    · exact h.attributes
    · rintro m rfl
      exact he rfl
  sole := by
    refine h.sole.run ?_
    rintro d' c rfl x hx hr
    exact absurd hr (he x hx).2
  directory_lt := Nat.lt_of_lt_of_le h.directory_lt (next_le_run e)
  lt := Nat.lt_of_lt_of_le h.lt (next_le_run e)

lemma PinnedMember.runAll (h : fs.PinnedMember d n r b a)
    {es : List (Effect ν)} (he : ∀ e ∈ es, e.Spares d n r) :
    (fs.runAll es).PinnedMember d n r b a := by
  induction es generalizing fs with
  | nil => exact h
  | cons e es ih => exact ih (h.run (he e (by simp))) fun e' he' => he e' (by simp [he'])

lemma PinnedMember.crash (h : fs.PinnedMember d n r b a)
    (hc : Crash fs img) : img.PinnedMember d n r b a where
  entry := h.entry.crash hc
  file := h.file.crash hc
  attributes := by rw [hc.attributes, h.attributes]
  sole := h.sole.crash hc
  directory_lt := by rw [hc.next]; exact h.directory_lt
  lt := by rw [hc.next]; exact h.lt

/-! ### Calls and the names they use -/

variable {es : List (Effect ν)} {who : Credentials} {order : List ν} {o : FileOp ν} {x : o.Value}

lemma PinnedEntry.runAll (h : fs.PinnedEntry d n v) (hd : d < fs.next)
    (he : ∀ c, .change d c ∈ es → ∀ a ∈ c, a.1 ≠ n) : (fs.runAll es).PinnedEntry d n v := by
  induction es generalizing fs with
  | nil => exact h
  | cons e es ih =>
    refine ih (h.run (Nat.ne_of_lt hd) ?_) (Nat.lt_of_lt_of_le hd (next_le_run e)) ?_
    · rintro c rfl
      exact he c (by simp)
    · intro c hc
      exact he c (by simp [hc])

/-- The call takes the name `n` of the directory `d` away from its inode. -/
def Takes (fs : FileSystem ν) (d : Ref) (n : ν) : FileOp ν → Prop
  | .removeFile parent m | .removeDirectory parent m => fs.directoryAt parent = .ok d ∧ m = n
  | .rename parent m m' => fs.directoryAt parent = .ok d ∧ (m = n ∨ m' = n)
  | _ => False

/-- A call changes names that are free and names it takes away. -/
lemma meaning_change (h : fs.meaning who order o = .ok (x, es)) {c : Change ν}
    (hc : .change d c ∈ es) {a : ν × Option Ref} (ha : a ∈ c) :
    fs.lookup d a.1 = none ∨ fs.Takes d a.1 o := by
  cases o with
  | createFile parent n mode =>
    obtain ⟨d', -, hl, -, rfl⟩ := meaning_createFile h
    simp only [List.mem_cons, reduceCtorEq, List.not_mem_nil, or_false, false_or] at hc
    obtain ⟨rfl, rfl⟩ := hc
    cases List.mem_singleton.mp ha
    exact .inl hl
  | createDirectory parent n mode =>
    obtain ⟨d', -, hl, rfl⟩ := meaning_createDirectory h
    simp only [List.mem_cons, reduceCtorEq, List.not_mem_nil, or_false, false_or] at hc
    obtain ⟨rfl, rfl⟩ := hc
    cases List.mem_singleton.mp ha
    exact .inl hl
  | removeFile parent n | removeDirectory parent n =>
    obtain ⟨d', r, hd, -, rfl⟩ :=
      meaning_remove (by first | exact .inl rfl | exact .inr rfl) h
    cases List.mem_singleton.mp hc
    cases List.mem_singleton.mp ha
    exact .inr ⟨hd, rfl⟩
  | rename parent m n =>
    obtain ⟨d', r, hd, -, ⟨-, rfl⟩ | ⟨-, rfl⟩⟩ := meaning_rename h
    · cases hc
    · cases List.mem_singleton.mp hc
      rcases List.mem_pair.mp ha with rfl | rfl
      · exact .inr ⟨hd, .inl rfl⟩
      · exact .inr ⟨hd, .inr rfl⟩
  | hardLink parent m n =>
    obtain ⟨d', r, hd, -, hl, -, rfl⟩ := meaning_hardLink h
    cases List.mem_singleton.mp hc
    cases List.mem_singleton.mp ha
    exact .inl hl
  | createRoot mode =>
    dsimp only [meaning] at h
    repeat' split at h
    all_goals cases h <;> simp at hc
  | openDirectory | openFile | metadata | symlinkMetadata | read | readDirectory
  | setPermissions | setPathPermissions | write | sync =>
    dsimp only [meaning] at h
    repeat' split at h
    all_goals cases h <;> simp at hc

/-- A name in use stays as it is unless a call takes it away. -/
lemma meaning_pinned (h : fs.PinnedEntry d n (some r)) (hd : d < fs.next)
    (hm : fs.meaning who order o = .ok (x, es)) (ho : ¬ fs.Takes d n o) :
    (fs.runAll es).PinnedEntry d n (some r) := by
  refine h.runAll hd fun c hc a ha hn => ?_
  rcases meaning_change hm hc ha with hl | ht
  · rw [hn, h.lookup] at hl
    cases hl
  · exact ho (hn ▸ ht)

lemma kind_runAll (hr : r < fs.next) (es : List (Effect ν)) :
    (fs.runAll es).kind r = fs.kind r := by
  induction es generalizing fs with
  | nil => rfl
  | cons e es ih =>
    refine (ih (Nat.lt_of_lt_of_le hr (next_le_run e))).trans ?_
    exact kind_run fun _ _ => Nat.ne_of_lt hr

lemma root_runAll (h : ∀ r, .setRoot r ∉ es) :
    (fs.runAll es).root = fs.root ∧ (fs.runAll es).rootSynced = fs.rootSynced := by
  induction es generalizing fs with
  | nil => exact ⟨rfl, rfl⟩
  | cons e es ih =>
    have hes : ((e.run fs).runAll es).root = (e.run fs).root ∧
        ((e.run fs).runAll es).rootSynced = (e.run fs).rootSynced :=
      ih fun r hr => h r (by simp [hr])
    cases e with
    | setRoot r => exact absurd (List.mem_cons_self) (h r)
    | _ => exact hes

lemma meaning_root {root : Ref} (hroot : fs.root = some root)
    (h : fs.meaning who order o = .ok (x, es)) :
    (fs.runAll es).root = some root ∧ (fs.runAll es).rootSynced = fs.rootSynced := by
  rw [← hroot]
  refine root_runAll fun r hr => ?_
  cases o with
  | createRoot mode =>
    rw [(meaning_createRoot hroot h).2] at hr
    cases hr
  | _ =>
    dsimp only [meaning] at h
    repeat' split at h
    all_goals cases h <;> simp at hr

end FileSystem
