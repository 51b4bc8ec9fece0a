import Mathlib.Data.Multiset.AddSub

/-! # Ledgers of debts

A process incurs debts and settles them.  The outstanding debts are a multiset, so that two
equal debts are two; settling a debt that is not outstanding changes nothing.  What a
process still holds covers its debts when the debts are below it as multisets, and each
kind of entry has its rule for keeping them covered. -/

namespace Ledger

/-- A debt is incurred or settled. -/
inductive Entry (α : Type) where
  | incurred (a : α)
  | settled (a : α)

variable {α : Type} [DecidableEq α] {debts held : Multiset α}

def Entry.book (debts : Multiset α) : Entry α → Multiset α
  | incurred a => a ::ₘ debts
  | settled a => debts.erase a

/-- The debts after the entries, in their order. -/
def balance (debts : Multiset α) (entries : List (Entry α)) : Multiset α :=
  entries.foldl Entry.book debts

@[simp] lemma balance_nil (debts : Multiset α) : balance debts [] = debts := rfl

lemma balance_settled (debts : Multiset α) (settled : List α) :
    balance debts (settled.map .settled) = debts - ↑settled := by
  induction settled generalizing debts with
  | nil => simp
  | cons a settled ih =>
    have hstep : balance debts (Entry.settled a :: settled.map .settled) =
        balance (debts.erase a) (settled.map .settled) := rfl
    rw [List.map_cons, hstep, ih, ← Multiset.cons_coe, Multiset.sub_cons]

lemma covered_settled {settled : List α}
    (h : debts ≤ ↑settled + held) : balance debts (settled.map .settled) ≤ held := by
  rw [balance_settled, Multiset.sub_le_iff_le_add']
  exact h

lemma covered_incurred (a : α) (h : debts ≤ held) : balance debts [.incurred a] ≤ a ::ₘ held :=
  Multiset.cons_le_cons a h

/-- Debts that avoid a part of what is held are covered by the rest. -/
lemma covered_of_disjoint {debts part held : Multiset α} (h : debts ≤ part + held)
    (hdisjoint : ∀ a ∈ part, a ∉ debts) : debts ≤ held := by
  rw [Multiset.le_iff_count] at h ⊢
  intro a
  have hcount := h a
  rw [Multiset.count_add] at hcount
  by_cases ha : a ∈ part
  · rw [Multiset.count_eq_zero_of_notMem (hdisjoint a ha)]
    exact Nat.zero_le _
  · rw [Multiset.count_eq_zero_of_notMem ha, Nat.zero_add] at hcount
    exact hcount

end Ledger
