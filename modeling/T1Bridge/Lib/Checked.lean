import Mathlib.Algebra.Ring.Nat

/-! # Arithmetic on words of bounded width

A word is its number.  An operation whose result does not fit, a subtraction below zero and a
division by zero give `none`, so that a computation with a value made none of them. -/

namespace Checked

/-- The number, if a word of this width can hold it. -/
def fit (width value : ℕ) : Option ℕ := if value < 2 ^ width then some value else none

def sub (a b : ℕ) : Option ℕ := if b ≤ a then some (a - b) else none

def div (a b : ℕ) : Option ℕ := if b = 0 then none else some (a / b)

def divCeil (a b : ℕ) : Option ℕ := if b = 0 then none else some ((a + (b - 1)) / b)

lemma fit_eq {width value : ℕ} (h : value < 2 ^ width) : fit width value = some value := if_pos h

lemma sub_eq {a b : ℕ} (h : b ≤ a) : sub a b = some (a - b) := if_pos h

end Checked
