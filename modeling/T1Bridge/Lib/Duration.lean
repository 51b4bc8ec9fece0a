import Mathlib.Order.Basic
import Mathlib.Tactic.NormNum

/-! # Time spans with 64-bit seconds

A time span holds whole seconds below `2 ^ 64` and a nanosecond part below `10 ^ 9`, so it
is a number of nanoseconds of at most `Duration.maxNanos`; the bound is a field of the
structure.  Addition is checked (`checkedAdd`) or saturating (`saturatingAdd`),
subtraction saturates at zero. -/

/-- Nanoseconds in the largest representable span. -/
def Duration.maxNanos : ℕ := (2 ^ 64 - 1) * 10 ^ 9 + 999999999

/-- A time span as it is stored, in nanoseconds. -/
structure Duration where
  nanos : ℕ
  le_max : nanos ≤ Duration.maxNanos
deriving DecidableEq

namespace Duration

instance : LE Duration := ⟨fun a b => a.nanos ≤ b.nanos⟩

instance (a b : Duration) : Decidable (a ≤ b) := inferInstanceAs (Decidable (a.nanos ≤ b.nanos))

/-- The span of `n` nanoseconds, the largest span if that is not representable. -/
def ofNanos (n : ℕ) : Duration := ⟨min n maxNanos, Nat.min_le_right _ _⟩

def ofMillis (n : ℕ) : Duration := ofNanos (n * 10 ^ 6)

def ofSecs (n : ℕ) : Duration := ofNanos (n * 10 ^ 9)

def isZero (a : Duration) : Bool := a.nanos == 0

variable (a b : Duration)

def checkedAdd : Option Duration :=
  if h : a.nanos + b.nanos ≤ maxNanos then some ⟨a.nanos + b.nanos, h⟩ else none

/-- A sum with a smaller summand is representable too. -/
lemma checkedAdd_of_le {a b c : Duration} (hle : b ≤ c) (hc : (a.checkedAdd c).isSome = true) :
    ∃ d, a.checkedAdd b = some d := by
  unfold checkedAdd at hc ⊢
  split_ifs at hc with h
  · have hb : a.nanos + b.nanos ≤ maxNanos := le_trans (Nat.add_le_add_left hle _) h
    exact ⟨_, dif_pos hb⟩
  · cases hc

def saturatingAdd : Duration := ofNanos (a.nanos + b.nanos)

def saturatingSub : Duration :=
  ⟨a.nanos - b.nanos, le_trans (Nat.sub_le _ _) a.le_max⟩

end Duration
