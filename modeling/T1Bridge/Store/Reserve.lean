import T1Bridge.Store.Begin

/-! # `reserve_recovery`

The method renames the stage, synchronises the store directory, creates the reservation and
synchronises again.  Wherever it is stopped, `load` returns what it returned before
(`reserveRecovery_steps`). -/

namespace T1Bridge.Store

open FileSystem CatacombPairTransaction
open Effect (allocate change chmod sync)

variable {w : World} {tx : CatacombPairTransaction} {root : Ref}

/-! ### What `reserve_recovery` changes -/

/-- The file system `b` is `a` with other entries for the names of the token `t`, none of them a
regular file of `a`. -/
structure Aside (root : Ref) (t : Name) (a b : FileSystem Name) : Prop where
  bounded : b.Bounded
  root_eq : b.root = a.root
  le_next : a.next ≤ b.next
  attributes : ∀ r < a.next, b.attributes r = a.attributes r
  bytes : ∀ r < a.next, b.bytes r = a.bytes r
  other : ∀ d < a.next, ∀ n, ¬ (d = root ∧ ownNames t d n) → b.lookup d n = a.lookup d n
  regular : ∀ r < a.next, a.kind r = .regular → ∀ d n, b.lookup d n = some r ↔ a.lookup d n = some r
  stage : ∀ r, b.lookup root (stageName t) = some r → b.kind r = .directory

/-- The operations of `reserve_recovery`; inodes from `old` on are its own. -/
def ReserveOp (old : Ref) (t : Name) : HostOp → Prop
  | .file (.rename parent n n') => parent = [] ∧ n = stageName t ∧ n' = generationName t
  | .file (.createFile parent n _) => parent = [] ∧ n = recoveryName t
  | .file (.setPermissions r _) => old ≤ r
  | .file (.sync _) => True
  | .file o => (HostOp.file o).IsLook
  | _ => True

namespace Aside

variable {t : Name} {a b : FileSystem Name}

lemma refl (hb : a.Bounded)
    (hs : ∀ r, a.lookup root (stageName t) = some r → a.kind r = .directory) : Aside root t a a :=
  ⟨hb, rfl, Nat.le_refl _, fun _ _ => rfl, fun _ _ => rfl, fun _ _ _ _ => rfl,
    fun _ _ _ _ _ => Iff.rfl, hs⟩

section

variable (h : Aside root t a b) {r : Ref}

include h

lemma kind (hr : r < a.next) : b.kind r = a.kind r := by
  rw [FileSystem.kind, FileSystem.kind, h.attributes r hr]

/-- The staged directory takes the name of its generation, which is free or an empty directory. -/
lemma rename (hl : b.lookup root (stageName t) = some r)
    (hreplace : ∀ q, b.lookup root (generationName t) = some q → b.canReplace r q = true)
    (hb : ((change root [(stageName t, none), (generationName t, some r)]).run b).Bounded) :
    Aside root t a ((change root [(stageName t, none), (generationName t, some r)]).run b) where
  bounded := hb
  root_eq := h.root_eq
  le_next := h.le_next
  attributes := h.attributes
  bytes := h.bytes
  other d hd n hn := by
    rw [lookup_change_two, if_neg, if_neg]
    · exact h.other d hd n hn
    · rintro ⟨rfl, rfl⟩
      exact hn ⟨rfl, .stage, rfl⟩
    · rintro ⟨rfl, rfl⟩
      exact hn ⟨rfl, .generation, rfl⟩
  regular q hq hk d n := by
    have hkr : b.kind r = .directory := h.stage r hl
    have hne : ∀ {x}, b.kind x = .directory → x ≠ q := by
      rintro _ hx rfl
      rw [h.kind hq, hk] at hx
      cases hx
    rw [← h.regular q hq hk d n, lookup_change_two]
    split
    · next hdn =>
      obtain ⟨rfl, rfl⟩ := hdn
      refine iff_of_false (fun heq => hne hkr (Option.some.inj heq)) fun heq => ?_
      have hr := hreplace q heq
      rw [canReplace, if_pos hkr, Bool.and_eq_true, decide_eq_true_eq] at hr
      exact hne hr.1 rfl
    · split
      · next hdn =>
        obtain ⟨rfl, rfl⟩ := hdn
        exact iff_of_false (by simp) fun heq => hne hkr (Option.some.inj (hl.symm.trans heq))
      · rfl
  stage q hq := by
    rw [lookup_change_two, if_neg, if_pos ⟨rfl, rfl⟩] at hq
    · cases hq
    · rintro ⟨-, hn⟩
      simp at hn

lemma create (x : Attributes) (hl : b.lookup root (recoveryName t) = none) (hroot : root < b.next)
    (hb : (b.runAll [.allocate x, .change root [(recoveryName t, some b.next)]]).Bounded) :
    Aside root t a (b.runAll [.allocate x, .change root [(recoveryName t, some b.next)]]) where
  bounded := hb
  root_eq := h.root_eq
  le_next := Nat.le_succ_of_le h.le_next
  attributes r hr := by
    change ((allocate x).run b).attributes r = _
    rw [attributes_allocate, if_neg (Nat.ne_of_lt (Nat.lt_of_lt_of_le hr h.le_next)),
      h.attributes r hr]
  bytes r hr := by
    change ((change _ _).run ((allocate x).run b)).bytes r = _
    rw [bytes_change, bytes_allocate, if_neg (Nat.ne_of_lt (Nat.lt_of_lt_of_le hr h.le_next)),
      h.bytes r hr]
  other d hd n hn := by
    change ((change _ _).run ((allocate x).run b)).lookup d n = _
    rw [lookup_change_one, if_neg, lookup_allocate,
      if_neg (Nat.ne_of_lt (Nat.lt_of_lt_of_le hd h.le_next)), h.other d hd n hn]
    rintro ⟨rfl, rfl⟩
    exact hn ⟨rfl, .recovery, rfl⟩
  regular q hq hk d n := by
    change ((change _ _).run ((allocate x).run b)).lookup d n = some q ↔ _
    rw [← h.regular q hq hk d n, lookup_change_one]
    have hnext : q ≠ b.next := Nat.ne_of_lt (Nat.lt_of_lt_of_le hq h.le_next)
    split
    · next hdn =>
      obtain ⟨rfl, rfl⟩ := hdn
      rw [hl]
      exact iff_of_false (fun heq => hnext (Option.some.inj heq).symm) (by simp)
    · rw [lookup_allocate]
      split
      · next hd =>
        subst hd
        exact iff_of_false (by simp) fun heq => Nat.lt_irrefl _ (h.bounded.lookup_lt heq).1
      · rfl
  stage q hq := by
    change ((change _ _).run ((allocate x).run b)).lookup _ _ = _ at hq
    rw [lookup_change_one, if_neg, lookup_allocate, if_neg (Nat.ne_of_lt hroot)] at hq
    · change ((allocate x).run b).kind q = _
      rw [kind_run fun _ _ => Nat.ne_of_lt (h.bounded.lookup_lt hq).2]
      exact h.stage q hq
    · rintro ⟨-, hn⟩
      simp at hn

lemma chmod {q : Ref} (hq : a.next ≤ q) (x : ℕ) : Aside root t a ((chmod q x).run b) where
  bounded := h.bounded.chmod q x
  root_eq := h.root_eq
  le_next := h.le_next
  attributes r hr := by
    rw [attributes_chmod, if_neg (Nat.ne_of_lt (Nat.lt_of_lt_of_le hr hq)), h.attributes r hr]
  bytes := h.bytes
  other := h.other
  regular := h.regular
  stage r hr := by
    rw [kind_run fun _ h => by cases h]
    exact h.stage r hr

lemma sync (q : Ref) : Aside root t a ((sync q).run b) where
  bounded := h.bounded.sync q
  root_eq := h.root_eq
  le_next := h.le_next
  attributes := h.attributes
  bytes r hr := by rw [bytes_sync, h.bytes r hr]
  other d hd n hn := by rw [lookup_sync, h.other d hd n hn]
  regular r hr hk d n := by rw [lookup_sync, h.regular r hr hk d n]
  stage r hr := by
    rw [lookup_sync] at hr
    exact h.stage r hr

end

lemma exec (h : Aside root t a w.fs) (hroot : a.root = some root) {op : HostOp}
    (ho : ReserveOp a.next t op) (c : Choice) : Aside root t a (Host.exec c w op).2.fs := by
  have hroot' : w.fs.root = some root := h.root_eq.trans hroot
  refine exec_keeps h ?_ ?_ c
  · rintro o rfl order v es hm
    have hbounded := (meaning_keeps hm w.bounded).1
    cases o with
    | rename parent n n' =>
      obtain ⟨rfl, rfl, rfl⟩ := ho
      obtain ⟨d, r, hd, hl, ⟨-, rfl⟩ | ⟨hreplace, rfl⟩⟩ := meaning_rename hm
      · exact h
      · obtain rfl := (eq_of_directoryAt_nil hroot' hd).1
        exact h.rename hl hreplace hbounded
    | createFile parent n mode =>
      obtain ⟨rfl, rfl⟩ := ho
      obtain ⟨d, hd, hl, -, rfl⟩ := meaning_createFile hm
      obtain rfl := (eq_of_directoryAt_nil hroot' hd).1
      exact h.create _ hl (w.bounded.root_lt _ hroot') hbounded
    | setPermissions q x =>
      cases hm
      exact h.chmod ho x
    | sync q =>
      cases hm
      exact h.sync q
    | _ =>
      rw [meaning_look (by exact ho) hm]
      exact h
  · rintro r b b' rfl
    exact ho.elim

lemma sees (h : Aside root t a b) (ha : a.Bounded) (uid : ℕ) :
    Sees uid (· < a.next) (fun d n => d = root ∧ ownNames t d n) a b where
  root := h.root_eq
  root_seen := ha.root_lt
  kind r hr := h.kind hr
  lookup d n hd hn := h.other d hd n hn
  closed d n r _ _ hl := (ha.lookup_lt hl).2
  bytes := h.bytes
  directory r hr := by rw [checkedDirectory, checkedDirectory, h.kind hr, h.attributes r hr]
  file r hr := by
    by_cases hk : a.kind r = .regular
    · have hlinks : b.links r = a.links r := links_congr h.bounded ha (h.regular r hr hk)
      rw [checkedFile, checkedFile, h.kind hr, h.attributes r hr, hlinks]
    · have hk' : (a.kind r == .regular) = false := beq_eq_false_iff_ne.mpr hk
      simp [checkedFile, validateFileIdentity, h.kind hr, hk']

end Aside

@[reducible] def reserving (a : FileSystem Name) (root : Ref) (t : Name)
    (hroot : a.root = some root) : Regime where
  inv := Aside root t a
  allows := ReserveOp a.next t
  look op h := by
    cases op with
    | file o => cases o <;> first | exact h | exact h.elim
    | _ => trivial
  stable _ _ c h ho := h.exec hroot ho c

lemma acts_reserveRecovery_reserving {a : FileSystem Name} (hroot : a.root = some root)
    (hw : Aside root tx.token a w.fs) :
    MethodActs (reserving a root tx.token hroot) reserveRecovery tx (fun _ _ _ => True) w := by
  have hR : (reserving a root tx.token hroot).Reserves root tx.token :=
    ⟨fun _ h => h.root_eq.trans hroot, ⟨rfl, rfl, rfl⟩, ⟨rfl, rfl⟩, fun _ h => h.le_next,
      fun _ => trivial⟩
  exact (acts_reserveRecovery_of hw fun _ => hR).mono fun _ _ _ _ _ _ _ => trivial

/-- Wherever `reserve_recovery` is stopped, `load` returns what it returned.  The stage is the
directory that the transaction made, and no marker names its new generation. -/
lemma reserveRecovery_steps {p : HostProg (Outcome Unit × _)} {w' : World}
    (hroot : w.fs.root = some root)
    (hstage : ∀ r, w.fs.lookup root (stageName tx.token) = some r → w.fs.kind r = .directory)
    (hmarker : markerView w.fs w.who.uid ≠ .ok (generationName tx.token))
    (h : Prog.Steps Host (reserveRecovery.run.run tx) w p w') :
    loadView w'.fs w.who.uid = loadView w.fs w.who.uid := by
  have haside : Aside root tx.token w.fs w'.fs :=
    h.invariant_of_wp (Prog.wp_weaken (fun _ _ h => h.1) (fun _ _ h => h.1)
      (acts_reserveRecovery_reserving hroot (Aside.refl w.bounded hstage)))
  refine (haside.sees w.bounded w.who.uid).loadView (fun n hn d hown => ?_) (fun d hown => ?_)
    fun g hg d hown => ?_
  · exact not_ownNames_pairFile hn hown.2
  · exact not_ownNames_activeMarker hown.2
  obtain ⟨_, -, -, -, hname⟩ := markerView_ok hg
  obtain ⟨u, -, rfl⟩ := isGenerationName_iff.mp hname
  obtain ⟨-, k, hk⟩ := hown
  obtain ⟨-, rfl⟩ := Artifact.name_inj.mp hk
  exact hmarker hg

end T1Bridge.Store
