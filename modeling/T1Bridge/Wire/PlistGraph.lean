import Mathlib.Logic.Relation
import T1Bridge.Wire.PlistObject

/-! # The graph of the objects

A visit that succeeds leaves everything it met black, and what is black reaches no cycle: `Acc` of
the relation between a child and its parent.  Where children have larger numbers than their parents
and no path is too long, every visit succeeds. -/

namespace T1Bridge.Wire

variable {colors' : List Color} {visit : ℕ → List Color → Except PlistError (List Color)}
  {children : List ℕ} {objects : List ScannedObject} {colors : List Color}

/-- The object names the other one. -/
def Below (objects : List ScannedObject) (child parent : ℕ) : Prop :=
  child ∈ childrenOf objects parent

section Visit

/-- The object and everything below it have been visited. -/
def Black (colors : List Color) (index : ℕ) : Prop := colors[index]? = some .black

/-- What is black has no cycle below it. -/
structure Sound (objects : List ScannedObject) (colors : List Color) : Prop where
  length : colors.length = objects.length
  black : ∀ index, Black colors index → Acc (Below objects) index

/-- What is black stays black. -/
def Darker (colors colors' : List Color) : Prop := ∀ index, Black colors index → Black colors' index

variable {index : ℕ}

lemma getD_color {color : Color} (hindex : index < colors.length)
    (h : colors.getD index .white = color) : colors[index]? = some color := by
  rw [← h]
  simp [List.getElem?_eq_getElem hindex]

lemma black_set_grey (hwhite : colors[index]? = some .white)
    (j : ℕ) : Black (colors.set index .grey) j ↔ Black colors j := by
  unfold Black
  rw [List.getElem?_set]
  split
  · next heq =>
    subst heq
    rw [hwhite]
    split <;> simp
  · exact Iff.rfl

lemma black_set_black {j : ℕ}
    (h : Black (colors.set index .black) j) : j = index ∨ Black colors j := by
  unfold Black at h
  rw [List.getElem?_set] at h
  split at h
  · next heq => exact .inl heq.symm
  · exact .inr h

lemma darker_set_black (colors : List Color) (index : ℕ) :
    Darker colors (colors.set index .black) := by
  intro j hj
  have hlt : j < colors.length := (List.getElem?_eq_some_iff.mp hj).1
  unfold Black
  rw [List.getElem?_set]
  split
  · next heq =>
    subst heq
    rw [if_pos hlt]
  · exact hj

lemma foldlM_visit (hvisit : ∀ child ∈ children, ∀ colors colors', Sound objects colors →
      visit child colors = .ok colors' → Sound objects colors' ∧ Darker colors colors' ∧
        Black colors' child) (hsound : Sound objects colors)
    (h : children.foldlM (fun colors child => visit child colors) colors = .ok colors') :
    Sound objects colors' ∧ Darker colors colors' ∧ ∀ child ∈ children, Black colors' child := by
  induction children generalizing colors with
  | nil =>
    cases h
    exact ⟨hsound, fun _ => id, nofun⟩
  | cons child children ih =>
    obtain ⟨colors1, hfirst, hrest⟩ := Except.of_bind_ok h
    obtain ⟨hsound1, hdarker1, hblack⟩ := hvisit child List.mem_cons_self colors colors1 hsound hfirst
    obtain ⟨hsound', hdarker, hall⟩ :=
      ih (fun c hc => hvisit c (List.mem_cons_of_mem _ hc)) hsound1 hrest
    exact ⟨hsound', fun j hj => hdarker j (hdarker1 j hj),
      List.forall_mem_cons.mpr ⟨hdarker _ hblack, hall⟩⟩

variable (hrange : ∀ index, ∀ child ∈ childrenOf objects index, child < objects.length)
include hrange

lemma validateAcyclic_sound (levels : ℕ) (hindex : index < objects.length)
    (hsound : Sound objects colors) (h : validateAcyclic objects levels index colors = .ok colors') :
    Sound objects colors' ∧ Darker colors colors' ∧ Black colors' index := by
  -- on the levels; a child is visited with one level less
  induction levels generalizing index colors colors' with
  | zero => cases h
  | succ levels ih =>
    have hlt : index < colors.length := hsound.length ▸ hindex
    unfold validateAcyclic at h
    split at h
    · cases h
    · next hcolor =>
      cases h
      exact ⟨hsound, fun _ => id, getD_color hlt hcolor⟩
    next hcolor =>
    have hwhite := getD_color hlt hcolor
    obtain ⟨colors1, hfold, h⟩ := Except.of_bind_ok h
    cases h
    have hgrey : Sound objects (colors.set index .grey) := by
      refine ⟨by rw [List.length_set, hsound.length], fun j hj => ?_⟩
      exact hsound.black j ((black_set_grey hwhite j).mp hj)
    obtain ⟨hsound1, hdarker, hchildren⟩ := foldlM_visit
      (fun child hchild _ _ hs hv => ih (hrange index child hchild) hs hv) hgrey hfold
    have hacc : Acc (Below objects) index :=
      Acc.intro index fun child hchild => hsound1.black child (hchildren child hchild)
    refine ⟨⟨by rw [List.length_set, hsound1.length], fun j hj => ?_⟩, fun j hj => ?_, ?_⟩
    · rcases black_set_black hj with rfl | hj
      · exact hacc
      · exact hsound1.black j hj
    · exact darker_set_black _ _ j (hdarker j ((black_set_grey hwhite j).mpr hj))
    have hlt1 : index < colors1.length := hsound1.length ▸ hindex
    unfold Black
    rw [List.getElem?_set_self hlt1]

/-- A graph that was validated has no cycle, reachable or not. -/
lemma validateGraph_acc (h : validateGraph objects = .ok colors) (index : ℕ) :
    Acc (Below objects) index := by
  have hstart : Sound objects (List.replicate objects.length .white) := by
    refine ⟨List.length_replicate, fun j hj => ?_⟩
    have hmem := List.mem_of_getElem? hj
    cases List.eq_of_mem_replicate hmem
  obtain ⟨hsound, -, hblack⟩ := foldlM_visit (fun child hchild _ _ hs hv =>
      validateAcyclic_sound hrange (maxDepth + 1) (List.mem_range.mp hchild) hs hv) hstart h
  rcases lt_or_ge index objects.length with hlt | hge
  · exact hsound.black index (hblack index (List.mem_range.mpr hlt))
  refine Acc.intro index fun child hchild => ?_
  unfold Below childrenOf at hchild
  rw [List.getElem?_eq_none hge] at hchild
  cases hchild

end Visit

/-! ### Graphs that are accepted -/

/-- Every path down from the object has fewer than `levels` edges. -/
def Shallow (objects : List ScannedObject) : ℕ → ℕ → Prop
  | 0, _ => False
  | levels + 1, index => ∀ child ∈ childrenOf objects index, Shallow objects levels child

lemma Shallow.mono {m n : ℕ} (hmn : m ≤ n) {index : ℕ} (h : Shallow objects m index) :
    Shallow objects n index := by
  induction m generalizing n index with
  | zero => exact h.elim
  | succ m ih =>
    obtain ⟨n, rfl⟩ : ∃ k, n = k + 1 := ⟨n - 1, by omega⟩
    exact fun child hchild => ih (by omega) (h child hchild)

/-- The object is being visited. -/
def Grey (colors : List Color) (index : ℕ) : Prop := colors[index]? = some .grey

/-- Everything that is being visited was being visited before. -/
def NoGreyer (colors colors' : List Color) : Prop := ∀ index, Grey colors' index → Grey colors index

lemma NoGreyer.refl (colors : List Color) : NoGreyer colors colors := fun _ => id

variable {index j : ℕ}

lemma NoGreyer.trans {colors'' : List Color} (h : NoGreyer colors colors')
    (h' : NoGreyer colors' colors'') : NoGreyer colors colors'' := fun j hj => h j (h' j hj)

lemma foldlM_ok (I : List Color → Prop) (hvisit : ∀ child ∈ children, ∀ colors, I colors →
      ∃ colors', visit child colors = .ok colors' ∧ I colors') (h : I colors) :
    ∃ colors', children.foldlM (fun colors child => visit child colors) colors = .ok colors' ∧
      I colors' := by
  induction children generalizing colors with
  | nil => exact ⟨colors, rfl, h⟩
  | cons child children ih =>
    obtain ⟨colors1, hfirst, h1⟩ := hvisit child List.mem_cons_self colors h
    obtain ⟨colors', hrest, h'⟩ := ih (fun c hc => hvisit c (List.mem_cons_of_mem _ hc)) h1
    refine ⟨colors', ?_, h'⟩
    rw [List.foldlM_cons, Except.ok_bind hfirst]
    exact hrest

lemma grey_set_grey (h : Grey (colors.set index .grey) j) : j = index ∨ Grey colors j := by
  unfold Grey at h
  rw [List.getElem?_set] at h
  split at h
  · next heq => exact .inl heq.symm
  · exact .inr h

lemma grey_set_black (h : Grey (colors.set index .black) j) : j ≠ index ∧ Grey colors j := by
  unfold Grey at h
  rw [List.getElem?_set] at h
  split at h
  · split at h <;> cases h
  · next hne => exact ⟨fun heq => hne heq.symm, h⟩

variable (hup : ∀ index, ∀ child ∈ childrenOf objects index, index < child)
include hup

/-- Where children come behind their parents, no visit meets what is being visited. -/
lemma validateAcyclic_ok {levels index : ℕ} (hshallow : Shallow objects levels index)
    (hgrey : ∀ j, Grey colors j → j < index) :
    ∃ colors', validateAcyclic objects levels index colors = .ok colors' ∧
      NoGreyer colors colors' := by
  -- on the levels; while the children are visited, the object is the last that is grey
  induction levels generalizing index colors with
  | zero => exact hshallow.elim
  | succ levels ih =>
    unfold validateAcyclic
    cases hcolor : colors.getD index .white with
    | grey =>
      have hlt : index < colors.length := by
        by_contra hge
        simp [List.getElem?_eq_none (not_lt.mp hge)] at hcolor
      exact absurd (hgrey index (getD_color hlt hcolor)) (lt_irrefl _)
    | black => exact ⟨colors, rfl, NoGreyer.refl colors⟩
    | white =>
      have hstart : ∀ j, Grey (colors.set index .grey) j → j < index + 1 := by
        intro j hj
        rcases grey_set_grey hj with rfl | hj
        · exact Nat.lt_succ_self _
        · exact Nat.lt_succ_of_lt (hgrey j hj)
      have hvisit : ∀ child ∈ childrenOf objects index, ∀ colors1,
          NoGreyer (colors.set index .grey) colors1 →
          ∃ colors', validateAcyclic objects levels child colors1 = .ok colors' ∧
            NoGreyer (colors.set index .grey) colors' := by
        intro child hchild colors1 hkeeps
        have hbelow : ∀ j, Grey colors1 j → j < child := fun j hj =>
          lt_of_lt_of_le (hstart j (hkeeps j hj)) (hup index child hchild)
        obtain ⟨colors', hok, hkeeps'⟩ := ih (hshallow child hchild) hbelow
        exact ⟨colors', hok, hkeeps.trans hkeeps'⟩
      obtain ⟨colors1, hfold, hgrey1⟩ := foldlM_ok _ hvisit (NoGreyer.refl _)
      refine ⟨colors1.set index .black, Except.ok_bind hfold _, fun j hj => ?_⟩
      obtain ⟨hne, hj⟩ := grey_set_black hj
      exact (grey_set_grey (hgrey1 j hj)).resolve_left hne

lemma validateGraph_ok (hshallow : ∀ index < objects.length, Shallow objects (maxDepth + 1) index) :
    ∃ colors, validateGraph objects = .ok colors := by
  have hvisit : ∀ index ∈ List.range objects.length, ∀ colors,
      NoGreyer (List.replicate objects.length .white) colors →
      ∃ colors', validateAcyclic objects (maxDepth + 1) index colors = .ok colors' ∧
        NoGreyer (List.replicate objects.length .white) colors' := by
    intro index hindex colors hkeeps
    have hnone : ∀ j, Grey colors j → j < index := by
      intro j hj
      cases List.eq_of_mem_replicate (List.mem_of_getElem? (hkeeps j hj))
    obtain ⟨colors', hok, hkeeps'⟩ :=
      validateAcyclic_ok hup (hshallow index (List.mem_range.mp hindex)) hnone
    exact ⟨colors', hok, hkeeps.trans hkeeps'⟩
  obtain ⟨colors, hfold, -⟩ := foldlM_ok _ hvisit (NoGreyer.refl _)
  exact ⟨colors, hfold⟩

end T1Bridge.Wire
