import T1Bridge.Lib.Except

/-! # Readers and writers of byte strings

A reader takes a value off the front of a byte string and returns it with the bytes behind it.
`Inverts read write` says that it takes off exactly what the writer puts there: nothing else is
read as that value, and what stands behind is left as it is.  The rules below carry this from
the parts of a format to the whole. -/

namespace Codec

open Except (bind_eq_ok ite_error_eq_ok)

variable {ε α β γ : Type}

abbrev Reader (ε α : Type) := List UInt8 → Except ε (α × List UInt8)

/-- The reader takes off exactly what the writer writes. -/
def Inverts (read : Reader ε α) (write : α → List UInt8) : Prop :=
  ∀ bytes a rest, read bytes = .ok (a, rest) ↔ bytes = write a ++ rest

variable {read : Reader ε α} {write : α → List UInt8} {bytes rest : List UInt8} {n : ℕ}

/-- What follows a reader runs on the bytes behind the value it took off. -/
lemma Inverts.bind_ok (h : Inverts read write)
    {next : α × List UInt8 → Except ε β} {b : β} : (read bytes >>= next) = .ok b ↔
      ∃ a rest, bytes = write a ++ rest ∧ next (a, rest) = .ok b := by
  simp only [bind_eq_ok, Prod.exists, h bytes]

lemma Inverts.check (h : Inverts read write) {convert : α → Except ε β} {back : β → α}
    (hconvert : ∀ a b, convert a = .ok b ↔ a = back b) :
    Inverts (fun bytes => read bytes >>= fun x => convert x.1 >>= fun b => .ok (b, x.2))
      (fun b => write (back b)) := by
  intro bytes b rest
  simp [h.bind_ok, bind_eq_ok, hconvert]

lemma Inverts.map_ok (h : Inverts read write) (wrap : α → β) {b : β} :
    (read bytes >>= fun x => .ok (wrap x.1, x.2)) = .ok (b, rest) ↔
      ∃ a, wrap a = b ∧ bytes = write a ++ rest := by
  simp [h.bind_ok, and_comm]

lemma Inverts.pair_ok (h : Inverts read write) {read' : Reader ε β} {write' : β → List UInt8}
    (h' : Inverts read' write') (pair : α → β → γ) {c : γ} :
    (read bytes >>= fun x => read' x.2 >>= fun y => .ok (pair x.1 y.1, y.2)) = .ok (c, rest) ↔
      ∃ a b, pair a b = c ∧ bytes = write a ++ (write' b ++ rest) := by
  simp only [h.bind_ok, h'.map_ok]
  simp [and_comm]

/-- A fixed number of bytes is taken off; a shorter string is refused. -/
lemma take_ok {bytes slice rest : List UInt8} {e : ε} :
    (if bytes.length < n then Except.error e else .ok (bytes.take n, bytes.drop n)) =
      .ok (slice, rest) ↔ slice.length = n ∧ bytes = slice ++ rest := by
  rw [ite_error_eq_ok, Except.ok.injEq, Prod.mk.injEq, Nat.not_lt]
  constructor
  · rintro ⟨hlength, rfl, rfl⟩
    exact ⟨List.length_take_of_le hlength, (List.take_append_drop ..).symm⟩
  · rintro ⟨rfl, rfl⟩
    simp

/-- Entries one behind the other, as many as were announced. -/
lemma Inverts.counted (h : Inverts read write) {many : ℕ → Reader ε (List α)}
    (hzero : ∀ bytes, many 0 bytes = .ok ([], bytes)) (hsucc : ∀ n bytes, many (n + 1) bytes =
      (read bytes >>= fun x => many n x.2 >>= fun y => .ok (x.1 :: y.1, y.2))) {l : List α} :
    many n bytes = .ok (l, rest) ↔ l.length = n ∧ bytes = l.flatMap write ++ rest := by
  induction n generalizing bytes l with
  | zero =>
    rw [hzero, List.length_eq_zero_iff, Except.ok.injEq, Prod.mk.injEq]
    constructor <;> rintro ⟨rfl, rfl⟩ <;> exact ⟨rfl, rfl⟩
  | succ n ih =>
    rw [hsucc, h.bind_ok]
    cases l with
    | nil => simp [bind_eq_ok]
    | cons a l => simp [bind_eq_ok, ih, and_comm]

/-! ### Entries without repetition -/

/-- A loop that compares each entry with those before it finds a repetition if there is one. -/
lemma repeats_eq_false_iff [DecidableEq β] (key : α → β) (l : List α) :
    (l.zipIdx.any fun (x, i) => (l.take i).any fun earlier => key earlier = key x) = false ↔
      (l.map key).Nodup := by
  rw [List.Nodup, List.pairwise_iff_getElem]
  constructor
  · intro hnone i j hi hj hij heq
    rw [List.length_map] at hi hj
    rw [List.getElem_map, List.getElem_map] at heq
    refine absurd hnone (Bool.not_eq_false _ ▸ List.any_eq_true.mpr ⟨(l[j], j), ?_, ?_⟩)
    · exact List.mk_mem_zipIdx_iff_getElem?.mpr (List.getElem?_eq_getElem hj)
    · refine List.any_eq_true.mpr ⟨l[i], ?_, decide_eq_true heq⟩
      exact List.mem_take_iff_getElem.mpr ⟨i, by omega, rfl⟩
  · intro hdistinct
    refine Bool.eq_false_iff.mpr fun hany => ?_
    obtain ⟨⟨x, j⟩, hmem, hearlier⟩ := List.any_eq_true.mp hany
    obtain ⟨earlier, htake, heq⟩ := List.any_eq_true.mp hearlier
    obtain ⟨i, hi, rfl⟩ := List.mem_take_iff_getElem.mp htake
    obtain ⟨hj, rfl⟩ := List.getElem?_eq_some_iff.mp (List.mk_mem_zipIdx_iff_getElem?.mp hmem)
    refine hdistinct i j (by simpa using by omega) (by simpa using hj) (by omega) ?_
    simpa using heq

end Codec
