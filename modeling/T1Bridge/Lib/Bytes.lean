import Mathlib.Algebra.Order.Ring.Int

/-! # Little-endian words

`leBytes w n` is the number `n` in `w` bytes, the low byte first, and `fromLe` reads such bytes
back.  `signed w n` is the two's complement reading of a word of `w` bytes. -/

def leBytes : ℕ → ℕ → List UInt8
  | 0, _ => []
  | w + 1, n => UInt8.ofNat n :: leBytes w (n / 256)

def fromLe : List UInt8 → ℕ
  | [] => 0
  | b :: bytes => b.toNat + 256 * fromLe bytes

def signed (w n : ℕ) : ℤ := if n < 256 ^ w / 2 then n else (n : ℤ) - (256 ^ w : ℕ)

@[simp] lemma length_leBytes (w n : ℕ) : (leBytes w n).length = w := by
  induction w generalizing n with
  | zero => rfl
  | succ w ih => rw [leBytes, List.length_cons, ih]

lemma leBytes_fromLe (bytes : List UInt8) : leBytes bytes.length (fromLe bytes) = bytes := by
  induction bytes with
  | nil => rfl
  | cons b bytes ih =>
    have hlt := b.toNat_lt
    have hlow : UInt8.ofNat (b.toNat + 256 * fromLe bytes) = b := by
      refine UInt8.toNat_inj.mp ?_
      rw [UInt8.toNat_ofNat']
      omega
    have hhigh : (b.toNat + 256 * fromLe bytes) / 256 = fromLe bytes := by omega
    rw [List.length_cons, leBytes, fromLe, hlow, hhigh, ih]

lemma fromLe_leBytes {w n : ℕ} (h : n < 256 ^ w) : fromLe (leBytes w n) = n := by
  induction w generalizing n with
  | zero =>
    rw [Nat.pow_zero, Nat.lt_one_iff] at h
    rw [h]
    rfl
  | succ w ih =>
    have hdiv : n / 256 < 256 ^ w := by
      rw [Nat.div_lt_iff_lt_mul (by decide)]
      rwa [Nat.pow_succ] at h
    rw [leBytes, fromLe, ih hdiv]
    exact Nat.mod_add_div n 256

lemma fromLe_lt (bytes : List UInt8) : fromLe bytes < 256 ^ bytes.length := by
  induction bytes with
  | nil => decide
  | cons b bytes ih =>
    have hlt := b.toNat_lt
    rw [fromLe, List.length_cons]
    omega

/-! ### Buffers -/

/-- The word of `w` bytes at an offset. -/
def wordAt (w offset : ℕ) (bytes : List UInt8) : ℕ := fromLe ((bytes.drop offset).take w)

lemma wordAt_lt (w offset : ℕ) (bytes : List UInt8) : wordAt w offset bytes < 256 ^ w :=
  lt_of_lt_of_le (fromLe_lt _)
    (Nat.pow_le_pow_right (by decide) (List.length_take_le w (bytes.drop offset)))

def byteAt (offset : ℕ) (bytes : List UInt8) : UInt8 := bytes.getD offset 0

/-- The bytes with zeros up to a size. -/
def padTo (size : ℕ) (bytes : List UInt8) : List UInt8 :=
  bytes ++ List.replicate (size - bytes.length) 0

lemma length_padTo {size : ℕ} {bytes : List UInt8} (h : bytes.length ≤ size) :
    (padTo size bytes).length = size := by
  rw [padTo, List.length_append, List.length_replicate]
  omega

variable {before : List UInt8} {offset : ℕ}

/-- A word is read at the length of what stands before it. -/
lemma wordAt_append {w n : ℕ} (after : List UInt8) (hoffset : before.length = offset)
    (hn : n < 256 ^ w) : wordAt w offset (before ++ leBytes w n ++ after) = n := by
  unfold wordAt
  rw [List.append_assoc, List.drop_left' hoffset, List.take_left' (length_leBytes w n),
    fromLe_leBytes hn]

lemma byteAt_append_left (after : List UInt8) (hoffset : offset < before.length) :
    byteAt offset (before ++ after) = byteAt offset before := by
  unfold byteAt
  simp [List.getElem?_append_left hoffset]

lemma byteAt_append_right (after : List UInt8) (hoffset : before.length ≤ offset) :
    byteAt offset (before ++ after) = byteAt (offset - before.length) after := by
  unfold byteAt
  simp [List.getElem?_append_right hoffset]
