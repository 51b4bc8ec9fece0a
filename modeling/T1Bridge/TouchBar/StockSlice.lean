import Mathlib.Algebra.Order.Ring.Nat
import T1Bridge.Lib.Checked

/-! # The function row

With Fn held the bar is thirteen slots, Escape and F1 to F12.  `functionSlot` is where a slot is
drawn, `functionHitTest` which key a contact hits; the one cuts the width at the ceilings of its
thirteenths, the other divides the position by them.  All arithmetic is checked, so a value says
that nothing overflowed. -/

namespace T1Bridge.TouchBar

open Checked

inductive FunctionKey where
  | f1 | f2 | f3 | f4 | f5 | f6 | f7 | f8 | f9 | f10 | f11 | f12
deriving DecidableEq

inductive StockAction where
  | escape
  | function (key : FunctionKey)
deriving DecidableEq

structure Rectangle where
  x : ℕ
  y : ℕ
  width : ℕ
  height : ℕ

/-- The frame the bar is laid out for; neither side is zero. -/
structure StockBar where
  width : UInt32
  height : UInt32
  width_ne : width ≠ 0
  height_ne : height ≠ 0

def nativeWidth : ℕ := 2170
def nativeHeight : ℕ := 60
def activeRight : ℕ := nativeWidth
def functionSlotCount : ℕ := 13
def plateY : ℕ := 0
def plateHeight : ℕ := 60

def scale (value extent nativeExtent : ℕ) : Option ℕ := do
  let product ← fit 64 (value * extent)
  let sum ← fit 64 (product + nativeExtent / 2)
  let quotient ← div sum nativeExtent
  return (fit 32 quotient).getD extent

def ceilingPartition (index extent count : ℕ) : Option ℕ := do
  let numerator ← fit 64 (index * extent)
  let quotient ← divCeil numerator count
  return (fit 32 quotient).getD extent

/-- The right and lower edges saturate. -/
def contains (bounds : Rectangle) (x y : ℕ) : Bool :=
  x ≥ bounds.x ∧ y ≥ bounds.y ∧ x < min (bounds.x + bounds.width) (2 ^ 32 - 1) ∧
    y < min (bounds.y + bounds.height) (2 ^ 32 - 1)

def functionAction : ℕ → Option StockAction
  | 0 => some .escape
  | 1 => some (.function .f1)
  | 2 => some (.function .f2)
  | 3 => some (.function .f3)
  | 4 => some (.function .f4)
  | 5 => some (.function .f5)
  | 6 => some (.function .f6)
  | 7 => some (.function .f7)
  | 8 => some (.function .f8)
  | 9 => some (.function .f9)
  | 10 => some (.function .f10)
  | 11 => some (.function .f11)
  | 12 => some (.function .f12)
  | _ => none

namespace StockBar

variable (bar : StockBar)

def scaledX (value : ℕ) : Option ℕ := scale value bar.width.toNat nativeWidth

def scaledY (value : ℕ) : Option ℕ := scale value bar.height.toNat nativeHeight

def activeRight : Option ℕ := do
  return max (← scale TouchBar.activeRight bar.width.toNat nativeWidth) 1

def functionSlot (slot : ℕ) : Option Rectangle := do
  let activeRight ← bar.activeRight
  let left ← ceilingPartition slot activeRight functionSlotCount
  let right ← ceilingPartition (← fit 32 (slot + 1)) activeRight functionSlotCount
  let span ← sub right left
  let inset := min (← bar.scaledX 5) (span / 2)
  let leftInset := if slot = 0 then 0 else inset
  return ⟨← fit 32 (left + leftInset), ← bar.scaledY plateY, span - (← fit 32 (leftInset + inset)),
    max (← bar.scaledY plateHeight) 1⟩

def functionHitTest (x y : UInt32) : Option (Option StockAction) := do
  let activeRight ← bar.activeRight
  if x.toNat ≥ activeRight ∨ y.toNat ≥ bar.height.toNat then return none
  else
    match fit 32 (← div (← fit 64 (x.toNat * functionSlotCount)) activeRight) with
    | none => return none
    | some slot =>
      let bounds ← bar.functionSlot slot
      return if contains bounds x.toNat y.toNat then functionAction slot else none

end StockBar

namespace StockBar

variable (bar : StockBar) {slot : ℕ}

/-- Where the slots of the row meet. -/
def edge (slot : ℕ) : ℕ := (slot * bar.width.toNat + 12) / 13

lemma width_pos : 0 < bar.width.toNat :=
  Nat.pos_of_ne_zero fun h => bar.width_ne (UInt32.toNat_inj.mp h)

lemma activeRight_eq : bar.activeRight = some bar.width.toNat := by
  have hlt := bar.width.toNat_lt
  have hpos := bar.width_pos
  simp (disch := omega) [activeRight, scale, TouchBar.activeRight, nativeWidth, fit_eq, div]
  omega

lemma ceilingPartition_eq (h : slot ≤ 13) :
    ceilingPartition slot bar.width.toNat 13 = some (bar.edge slot) := by
  have hlt := bar.width.toNat_lt
  have hproduct : slot * bar.width.toNat ≤ 13 * bar.width.toNat := Nat.mul_le_mul_right _ h
  simp (disch := omega) [ceilingPartition, fit_eq, divCeil, edge]

lemma edge_le (h : slot < 13) :
    bar.edge slot ≤ bar.edge (slot + 1) ∧ bar.edge (slot + 1) ≤ bar.width.toNat := by
  have hproduct : slot * bar.width.toNat ≤ 12 * bar.width.toNat := Nat.mul_le_mul_right _ (by omega)
  rw [edge, edge, Nat.succ_mul]
  omega

lemma functionSlot_between (h : slot < 13) : ∃ bounds, bar.functionSlot slot = some bounds ∧
    bar.edge slot ≤ bounds.x ∧ bounds.x + bounds.width ≤ bar.edge (slot + 1) ∧ bounds.y = 0 ∧
      bounds.height = bar.height.toNat := by
  have hwidth := bar.width.toNat_lt
  have hheight := bar.height.toNat_lt
  have hpos : 0 < bar.height.toNat :=
    Nat.pos_of_ne_zero fun h => bar.height_ne (UInt32.toNat_inj.mp h)
  obtain ⟨hedge, hright⟩ := bar.edge_le h
  have hscaled : bar.scaledX 5 = some ((5 * bar.width.toNat + 1085) / 2170) := by
    simp (disch := omega) [scaledX, scale, nativeWidth, fit_eq, div]
  have hy : bar.scaledY plateY = some 0 := by
    simp [scaledY, scale, nativeHeight, plateY, fit, div]
  have htall : bar.scaledY plateHeight = some bar.height.toNat := by
    simp (disch := omega) [scaledY, scale, nativeHeight, plateHeight, fit_eq, div]
    omega
  simp (disch := omega) only [functionSlot, activeRight_eq, ceilingPartition_eq, functionSlotCount,
    fit_eq, sub_eq, hscaled, hy, htall, Option.bind_eq_bind, Option.bind_some]
  -- half of the span bounds the inset on either side
  have hinset := min_le_right ((5 * bar.width.toNat + 1085) / 2170)
    ((bar.edge (slot + 1) - bar.edge slot) / 2)
  generalize min ((5 * bar.width.toNat + 1085) / 2170)
    ((bar.edge (slot + 1) - bar.edge slot) / 2) = inset at hinset ⊢
  split_ifs <;> simp (disch := omega) [fit_eq] <;> omega

/-- The hit test looks at the slot whose edges enclose the position. -/
lemma edge_iff {x slot : ℕ} :
    bar.edge slot ≤ x ∧ x < bar.edge (slot + 1) ↔ x * 13 / bar.width.toNat = slot := by
  have hpos := bar.width_pos
  rw [Nat.div_eq_iff hpos, edge, edge, Nat.succ_mul]
  omega

lemma functionAction_slot : ∀ slot < 13, functionAction slot ≠ none ∧
    ∀ other < 13, functionAction other = functionAction slot → other = slot := by
  decide

/-- The slots of the function row lie one behind the other in the frame, and a pixel hits the key
of a slot exactly when it lies in it.  Nothing overflows: slots and hit test have a value. -/
theorem function_row_is_hit_where_it_is_drawn :
    (∀ slot < 13, ∃ bounds, bar.functionSlot slot = some bounds ∧
      bounds.x + bounds.width ≤ bar.width.toNat ∧ bounds.y + bounds.height ≤ bar.height.toNat ∧
      ∀ other < 13, ∀ bounds', bar.functionSlot other = some bounds' → slot < other →
        bounds.x + bounds.width ≤ bounds'.x) ∧
    ∀ x y : UInt32, ∃ action, bar.functionHitTest x y = some action ∧
      ∀ slot < 13, ∀ bounds, bar.functionSlot slot = some bounds → (action = functionAction slot ↔
        (bounds.x ≤ x.toNat ∧ x.toNat < bounds.x + bounds.width) ∧
          bounds.y ≤ y.toNat ∧ y.toNat < bounds.y + bounds.height) := by
  have hwidth := bar.width.toNat_lt
  have hheight := bar.height.toNat_lt
  constructor
  · intro slot hslot
    obtain ⟨bounds, hbounds, hleft, hright, hy, htall⟩ := bar.functionSlot_between hslot
    refine ⟨bounds, hbounds, hright.trans (bar.edge_le hslot).2, by omega, ?_⟩
    intro other hother bounds' hbounds' hlt
    obtain ⟨_, hother', hleft', -⟩ := bar.functionSlot_between hother
    cases hbounds'.symm.trans hother'
    refine hright.trans (le_trans ?_ hleft')
    exact Nat.div_le_div_right (Nat.add_le_add_right (Nat.mul_le_mul_right _ hlt) _)
  intro x y
  unfold functionHitTest
  rw [activeRight_eq, Option.bind_eq_bind, Option.bind_some]
  split_ifs with houtside
  · refine ⟨none, rfl, fun slot hslot bounds hbounds => ?_⟩
    obtain ⟨_, hbounds', hleft, hright, hy, htall⟩ := bar.functionSlot_between hslot
    cases hbounds.symm.trans hbounds'
    have hedge := (bar.edge_le hslot).2
    exact iff_of_false (functionAction_slot slot hslot).1.symm (by omega)
  have hhit : x.toNat * 13 / bar.width.toNat < 13 :=
    (Nat.div_lt_iff_lt_mul bar.width_pos).mpr (by omega)
  obtain ⟨hit, hbounds, hleft, hright, hy, htall⟩ := bar.functionSlot_between hhit
  have hedge := (bar.edge_le hhit).2
  have hcontains : contains hit x.toNat y.toNat = true ↔
      (hit.x ≤ x.toNat ∧ x.toNat < hit.x + hit.width) ∧
        hit.y ≤ y.toNat ∧ y.toNat < hit.y + hit.height := by
    simp only [contains, decide_eq_true_eq]
    omega
  have hslots : div (x.toNat * 13) bar.width.toNat = some (x.toNat * 13 / bar.width.toNat) :=
    if_neg bar.width_pos.ne'
  simp (disch := omega) only [functionSlotCount, fit_eq, hslots, hbounds, Option.bind_eq_bind,
    Option.bind_some]
  refine ⟨_, rfl, fun slot hslot bounds hslotBounds => ?_⟩
  obtain ⟨hnone, hinj⟩ := functionAction_slot slot hslot
  by_cases hsame : x.toNat * 13 / bar.width.toNat = slot
  · subst hsame
    cases hslotBounds.symm.trans hbounds
    rw [← hcontains]
    split_ifs with hin
    · exact iff_of_true rfl hin
    · exact iff_of_false hnone.symm hin
  · obtain ⟨_, hother, hleft', hright', -⟩ := bar.functionSlot_between hslot
    cases hslotBounds.symm.trans hother
    have hbetween := mt bar.edge_iff.mp hsame
    refine iff_of_false ?_ (by omega)
    split_ifs
    · exact fun haction => hsame (hinj _ hhit haction)
    · exact hnone.symm

end StockBar

end T1Bridge.TouchBar
