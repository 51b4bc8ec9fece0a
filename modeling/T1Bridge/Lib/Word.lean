import T1Bridge.Lib.Bytes
import T1Bridge.Lib.Except

/-! # Fixed-width words in byte strings

A `Word` type is written in its own width, the low byte first, and read back at an offset.  A
`record` is a run of such words.  `record_append_eq_iff` turns the equation between a byte string
and a record into one equation per field, at the field's offset: the same facts a decoder that
reads fixed offsets establishes.  `asChunks` cuts a byte string into records of one size. -/

/-- Numbers of a fixed number of bytes. -/
class Word (α : Type) where
  width : ℕ
  toNat : α → ℕ
  ofNat : ℕ → α
  toNat_lt : ∀ a, toNat a < 256 ^ width
  toNat_ofNat : ∀ n, n < 256 ^ width → toNat (ofNat n) = n
  ofNat_toNat : ∀ a, ofNat (toNat a) = a

namespace Word

instance : Word UInt8 := ⟨1, UInt8.toNat, UInt8.ofNat, UInt8.toNat_lt,
  fun _ h => UInt8.toNat_ofNat_of_lt' h, fun _ => UInt8.ofNat_toNat⟩

instance : Word UInt16 := ⟨2, UInt16.toNat, UInt16.ofNat, UInt16.toNat_lt,
  fun _ h => UInt16.toNat_ofNat_of_lt' h, fun _ => UInt16.ofNat_toNat⟩

instance : Word UInt32 := ⟨4, UInt32.toNat, UInt32.ofNat, UInt32.toNat_lt,
  fun _ h => UInt32.toNat_ofNat_of_lt' h, fun _ => UInt32.ofNat_toNat⟩

instance : Word UInt64 := ⟨8, UInt64.toNat, UInt64.ofNat, UInt64.toNat_lt,
  fun _ h => UInt64.toNat_ofNat_of_lt' h, fun _ => UInt64.ofNat_toNat⟩

@[simp, grind =] lemma width_uint8 : width UInt8 = 1 := rfl
@[simp, grind =] lemma width_uint16 : width UInt16 = 2 := rfl
@[simp, grind =] lemma width_uint32 : width UInt32 = 4 := rfl
@[simp, grind =] lemma width_uint64 : width UInt64 = 8 := rfl

variable {α : Type} [Word α]

def read (α : Type) [Word α] (offset : ℕ) (bs : List UInt8) : α :=
  ofNat (wordAt (width α) offset bs)

lemma read_eq_iff {offset : ℕ} {bs : List UInt8} {a : α} :
    read α offset bs = a ↔ wordAt (width α) offset bs = toNat a := by
  unfold read
  constructor
  · rintro rfl
    exact (toNat_ofNat _ (wordAt_lt _ _ _)).symm
  · intro h
    rw [h, ofNat_toNat]

end Word

/-! ### Records -/

/-- A number that fits its width. -/
structure WordField where
  width : ℕ
  value : ℕ
  value_lt : value < 256 ^ width

def WordField.of {α : Type} [Word α] (a : α) : WordField := ⟨Word.width α, Word.toNat a, Word.toNat_lt a⟩

/-- Reserved bytes. -/
def WordField.zeros (k : ℕ) : WordField := ⟨k, 0, Nat.pow_pos (by decide)⟩

def WordField.bytes (field : WordField) : List UInt8 := leBytes field.width field.value

def record (fields : List WordField) : List UInt8 := fields.flatMap WordField.bytes

/-- From an offset on, the fields stand one behind the other, and then `tail`. -/
def Laid (bs tail : List UInt8) : ℕ → List WordField → Prop
  | offset, [] => offset ≤ bs.length ∧ bs.drop offset = tail
  | offset, field :: fields =>
    wordAt field.width offset bs = field.value ∧ Laid bs tail (offset + field.width) fields

variable {bs tail : List UInt8} {offset : ℕ} {fields : List WordField} {size : ℕ} {α : Type} {k : ℕ}

lemma laid_nil : Laid bs tail offset [] ↔ offset ≤ bs.length ∧ bs.drop offset = tail := Iff.rfl

@[simp] lemma laid_end : Laid bs [] offset [] ↔ bs.length = offset := by
  rw [laid_nil, List.drop_eq_nil_iff]
  omega

@[simp] lemma laid_zeros : Laid bs tail offset (.zeros k :: fields) ↔
      wordAt k offset bs = 0 ∧ Laid bs tail (offset + k) fields := Iff.rfl

@[simp] lemma laid_of [Word α] {a : α} : Laid bs tail offset (.of a :: fields) ↔
      Word.read α offset bs = a ∧ Laid bs tail (offset + Word.width α) fields := by
  rw [Word.read_eq_iff]
  rfl

lemma Laid.le (h : Laid bs tail offset fields) : offset ≤ bs.length := by
  induction fields generalizing offset with
  | nil => exact h.1
  | cons field fields ih =>
    have := ih h.2
    omega

lemma drop_eq_bytes_append {more : List UInt8} {field : WordField}
    (hle : offset + field.width ≤ bs.length) : bs.drop offset = field.bytes ++ more ↔
      wordAt field.width offset bs = field.value ∧ bs.drop (offset + field.width) = more := by
  have htake : ((bs.drop offset).take field.width).length = field.width := by
    rw [List.length_take, List.length_drop]
    omega
  have hsplit := List.take_append_drop field.width (bs.drop offset)
  rw [List.drop_drop] at hsplit
  have hword : wordAt field.width offset bs = field.value ↔
      (bs.drop offset).take field.width = field.bytes := by
    have hbytes := leBytes_fromLe ((bs.drop offset).take field.width)
    rw [htake] at hbytes
    unfold wordAt WordField.bytes
    constructor
    · intro h
      rw [← h, hbytes]
    · intro h
      rw [h, fromLe_leBytes field.value_lt]
  rw [hword]
  constructor
  · intro h
    exact List.append_inj (hsplit.trans h) (htake.trans (length_leBytes _ _).symm)
  · rintro ⟨h, rfl⟩
    rw [← h, hsplit]

lemma drop_eq_record_append (hle : offset ≤ bs.length) :
    bs.drop offset = record fields ++ tail ↔ Laid bs tail offset fields := by
  induction fields generalizing offset with
  | nil => exact ⟨fun h => ⟨hle, h⟩, And.right⟩
  | cons field fields ih =>
    have hrecord : record (field :: fields) ++ tail = field.bytes ++ (record fields ++ tail) := by
      unfold record
      rw [List.flatMap_cons, List.append_assoc]
    rw [hrecord]
    constructor
    · intro h
      have hlength := congrArg List.length h
      rw [List.length_drop, List.length_append, WordField.bytes, length_leBytes] at hlength
      have hfits : offset + field.width ≤ bs.length := by omega
      obtain ⟨hword, hmore⟩ := (drop_eq_bytes_append hfits).mp h
      exact ⟨hword, (ih hfits).mp hmore⟩
    · rintro ⟨hword, hlaid⟩
      exact (drop_eq_bytes_append hlaid.le).mpr ⟨hword, (ih hlaid.le).mpr hlaid⟩

lemma record_append_eq_iff : record fields ++ tail = bs ↔ Laid bs tail 0 fields :=
  eq_comm.trans (drop_eq_record_append (Nat.zero_le bs.length))

lemma record_eq_iff : record fields = bs ↔ Laid bs [] 0 fields := by
  rw [← record_append_eq_iff, List.append_nil]

/-- Bytes that are all zero are a word that is zero. -/
lemma wordAt_eq_zero_iff : wordAt k offset bs = 0 ↔ ∀ b ∈ (bs.drop offset).take k, b = 0 := by
  unfold wordAt
  induction (bs.drop offset).take k with
  | nil => simp [fromLe]
  | cons b bytes ih =>
    rw [fromLe, List.forall_mem_cons, ← ih, ← UInt8.toNat_inj]
    simp

/-! ### Records of one size -/

/-- The full records of `size` bytes; what is left at the end is dropped. -/
def asChunks (size : ℕ) (bs : List UInt8) : List (List UInt8) :=
  (List.range (bs.length / size)).map fun i => (bs.drop (size * i)).take size

lemma asChunks_nil (size : ℕ) : asChunks size [] = [] := by
  unfold asChunks
  simp

lemma asChunks_append {front : List UInt8} (behind : List UInt8) (hsize : 0 < size)
    (h : front.length = size) : asChunks size (front ++ behind) = front :: asChunks size behind := by
  have hcount : (front ++ behind).length / size = behind.length / size + 1 := by
    rw [List.length_append, h, Nat.add_div_left _ hsize]
  unfold asChunks
  rw [hcount, List.range_succ_eq_map, List.map_cons, List.map_map, Nat.mul_zero, List.drop_zero,
    List.take_left' h]
  congr 1
  refine List.map_congr_left fun i _ => ?_
  rw [Function.comp_apply, Nat.mul_succ, Nat.add_comm, ← List.drop_drop, List.drop_left' h]

section Chunks

variable {ε : Type} {count : ℕ} {values : List α} {write : α → List UInt8} (hsize : 0 < size)
  (hwrite : ∀ a, (write a).length = size)

include hsize hwrite

lemma mapM_asChunks {read : List UInt8 → Except ε α}
    (hread : ∀ chunk a, chunk.length = size → (read chunk = .ok a ↔ chunk = write a)) :
    bs.length = count * size ∧ (asChunks size bs).mapM read = .ok values ↔
      values.length = count ∧ bs = values.flatMap write := by
  induction count generalizing bs values with
  | zero =>
    rw [Nat.zero_mul, List.length_eq_zero_iff, List.length_eq_zero_iff]
    constructor
    · rintro ⟨rfl, h⟩
      rw [asChunks_nil] at h
      cases h
      exact ⟨rfl, rfl⟩
    · rintro ⟨rfl, rfl⟩
      rw [List.flatMap_nil, asChunks_nil]
      exact ⟨rfl, rfl⟩
  | succ count ih =>
    rw [Nat.succ_mul]
    constructor
    · rintro ⟨hlength, h⟩
      have hfront : (bs.take size).length = size := List.length_take_of_le (by omega)
      rw [← bs.take_append_drop size, asChunks_append _ hsize hfront, List.mapM_cons] at h
      simp only [Except.bind_eq_ok, Except.pure_eq_ok, hread _ _ hfront] at h
      obtain ⟨a, ha, values, hvalues, rfl⟩ := h
      obtain ⟨rfl, hbehind⟩ := ih.mp ⟨by rw [List.length_drop]; omega, hvalues⟩
      rw [List.flatMap_cons, ← ha, ← hbehind, List.take_append_drop]
      exact ⟨rfl, rfl⟩
    · rintro ⟨hlength, rfl⟩
      obtain ⟨a, values, rfl⟩ := List.exists_cons_of_length_eq_add_one hlength
      obtain ⟨hbehind, hvalues⟩ := ih.mpr ⟨Nat.succ.inj hlength, rfl⟩
      rw [List.flatMap_cons, List.length_append, hwrite, hbehind,
        asChunks_append _ hsize (hwrite a),
        List.mapM_cons, (hread _ _ (hwrite a)).mpr rfl, hvalues]
      exact ⟨Nat.add_comm .., rfl⟩

lemma mapM_asChunks_drop {read : List UInt8 → Except ε α} {offset : ℕ}
    (hread : ∀ chunk a, chunk.length = size → (read chunk = .ok a ↔ chunk = write a)) :
    bs.length = offset + count * size ∧ (asChunks size (bs.drop offset)).mapM read = .ok values ↔
      offset ≤ bs.length ∧ values.length = count ∧ bs.drop offset = values.flatMap write := by
  rw [← mapM_asChunks hsize hwrite hread, ← and_assoc, List.length_drop]
  exact and_congr_left fun _ => by omega

lemma map_asChunks_drop {read : List UInt8 → α} {offset : ℕ}
    (hread : ∀ chunk a, chunk.length = size → (read chunk = a ↔ chunk = write a)) :
    bs.length = offset + count * size ∧ (asChunks size (bs.drop offset)).map read = values ↔
      offset ≤ bs.length ∧ values.length = count ∧ bs.drop offset = values.flatMap write := by
  rw [← mapM_asChunks_drop hsize hwrite fun chunk a h =>
    (Except.pure_eq_ok (ε := Unit)).trans (hread chunk a h), List.mapM_pure, Except.pure_eq_ok]

end Chunks
