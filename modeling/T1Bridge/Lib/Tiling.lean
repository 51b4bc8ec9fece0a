import Mathlib.Algebra.Ring.Nat
import Mathlib.Data.List.Sort

/-! # Extents that tile a range

An extent is a start and a length.  `Contiguous lo extents hi` says that the extents, none of them
empty, follow each other from `lo` to `hi`; `Tiles` says that they do so in some order.  The ends of
sorted starts are the starts behind them: `contiguous_of_sorted` and `Contiguous.lookup` go from one
view to the other. -/

namespace Tiling

/-- The extents stand one behind the other and fill the range. -/
def Contiguous : ℕ → List (ℕ × ℕ) → ℕ → Prop
  | lo, [], hi => lo = hi
  | lo, (start, length) :: extents, hi =>
    start = lo ∧ 0 < length ∧ Contiguous (lo + length) extents hi

/-- The extents cover the range without a gap and without an overlap. -/
def Tiles (lo hi : ℕ) (extents : List (ℕ × ℕ)) : Prop :=
  ∃ order : List (ℕ × ℕ), order.Perm extents ∧ Contiguous lo order hi

/-- Each start with the one behind it, the last with `hi`. -/
def ends (starts : List ℕ) (hi : ℕ) : List (ℕ × ℕ) := starts.zip (starts.tail ++ [hi])

variable {lo hi : ℕ} {order : List (ℕ × ℕ)} {starts : List ℕ}

lemma Contiguous.bounds (h : Contiguous lo order hi) :
    lo ≤ hi ∧ ∀ extent ∈ order, lo ≤ extent.1 ∧ 0 < extent.2 ∧ extent.1 + extent.2 ≤ hi := by
  induction order generalizing lo with
  | nil => exact ⟨le_of_eq h, nofun⟩
  | cons extent order ih =>
    obtain ⟨rfl, hlength, hrest⟩ := h
    obtain ⟨hle, hall⟩ := ih hrest
    refine ⟨by omega, List.forall_mem_cons.mpr ⟨⟨le_rfl, hlength, hle⟩, fun extent hextent => ?_⟩⟩
    obtain ⟨hlo, hpos, hhi⟩ := hall extent hextent
    exact ⟨by omega, hpos, hhi⟩

lemma Contiguous.sorted (h : Contiguous lo order hi) : (order.map Prod.fst).Pairwise (· < ·) := by
  induction order generalizing lo with
  | nil => exact List.Pairwise.nil
  | cons extent order ih =>
    obtain ⟨rfl, hlength, hrest⟩ := h
    refine List.Pairwise.cons (fun other hother => ?_) (ih hrest)
    obtain ⟨extent, hextent, rfl⟩ := List.mem_map.mp hother
    have hlo := (hrest.bounds.2 extent hextent).1
    omega

lemma Contiguous.sum (h : Contiguous lo order hi) : lo + (order.map Prod.snd).sum = hi := by
  induction order generalizing lo with
  | nil => exact h
  | cons extent order ih =>
    obtain ⟨rfl, -, hrest⟩ := h
    rw [List.map_cons, List.sum_cons, ← Nat.add_assoc]
    exact ih hrest

/-- The end of an extent is the start behind it. -/
lemma Contiguous.lookup (h : Contiguous lo order hi) {extent : ℕ × ℕ} (hextent : extent ∈ order) :
    (ends (order.map Prod.fst) hi).lookup extent.1 = some (extent.1 + extent.2) := by
  induction order generalizing lo with
  | nil => cases hextent
  | cons first order ih =>
    obtain ⟨start, length⟩ := first
    have hsorted := h.sorted
    obtain ⟨rfl, hlength, hrest⟩ := h
    rcases List.mem_cons.mp hextent with rfl | hextent
    · cases order with
      | nil =>
        have hhi : start + length = hi := hrest
        simp [ends, hhi]
      | cons second order =>
        have hsecond : second.1 = start + length := hrest.1
        simp [ends, hsecond]
    · have hne : extent.1 ≠ start := by
        have hlt := List.rel_of_pairwise_cons hsorted (List.mem_map_of_mem hextent)
        exact fun heq => absurd (heq ▸ hlt) (lt_irrefl _)
      have hfalse : (extent.1 == start) = false := beq_false_of_ne hne
      have hnext := ih hrest hextent
      cases order with
      | nil => cases hextent
      | cons second order =>
        simp only [ends, List.map_cons, List.tail_cons, List.cons_append,
          List.zip_cons_cons] at hnext ⊢
        rw [List.lookup_cons, hfalse]
        exact hnext

lemma contiguous_of_sorted (hsorted : starts.Pairwise (· < ·))
    (hhead : starts.head? = some lo) (hhi : ∀ start ∈ starts, start < hi) :
    Contiguous lo ((ends starts hi).map fun e => (e.1, e.2 - e.1)) hi := by
  induction starts generalizing lo with
  | nil => cases hhead
  | cons start starts ih =>
    cases hhead
    cases starts with
    | nil =>
      have hlt := hhi start List.mem_cons_self
      refine ⟨rfl, by dsimp only; omega, ?_⟩
      show start + (hi - start) = hi
      omega
    | cons second starts =>
      have hlt : start < second := List.rel_of_pairwise_cons hsorted List.mem_cons_self
      refine ⟨rfl, by dsimp only; omega, ?_⟩
      have hnext := ih hsorted.of_cons rfl fun s hs => hhi s (List.mem_cons_of_mem _ hs)
      have hsum : start + (second - start) = second := by omega
      rw [hsum]
      exact hnext

lemma fst_ends (starts : List ℕ) (hi : ℕ) : (ends starts hi).map Prod.fst = starts := by
  cases starts with
  | nil => rfl
  | cons start starts =>
    refine List.map_fst_zip ?_
    simp

/-- Every start has an end, and none other than its own. -/
lemma lookup_of_mem_ends (hsorted : starts.Pairwise (· < ·)) {e : ℕ × ℕ}
    (he : e ∈ ends starts hi) : (ends starts hi).lookup e.1 = some e.2 := by
  have hnodup : ((ends starts hi).map Prod.fst).Nodup := by
    rw [fst_ends]
    exact hsorted.imp fun hlt => ne_of_lt hlt
  generalize ends starts hi = pairs at he hnodup
  induction pairs with
  | nil => cases he
  | cons pair pairs ih =>
    obtain ⟨start, stop⟩ := pair
    rw [List.map_cons, List.nodup_cons] at hnodup
    rcases List.mem_cons.mp he with rfl | he
    · simp
    have hne : e.1 ≠ start := by
      intro heq
      have hmem : e.1 ∈ pairs.map Prod.fst := List.mem_map_of_mem he
      rw [heq] at hmem
      exact hnodup.1 hmem
    rw [List.lookup_cons, beq_false_of_ne hne]
    exact ih he hnodup.2

end Tiling
