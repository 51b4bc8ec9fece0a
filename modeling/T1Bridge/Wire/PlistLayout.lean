import T1Bridge.Wire.PlistGraph

/-! # Documents

`Written` says that a byte string is a document with these objects: the header, the objects side by
side in any order, the table that says where each one is, and the trailer.  Every byte string that
is scanned is such a document (`scanDocument_inv`), and the scan of a document finds its objects
(`scanDocument_written`). -/

namespace T1Bridge.Wire

open List (length_drop map_cons mem_cons mem_cons_self take_add)
open Tiling (Contiguous Tiles)
open Except (bind_eq_ok ite_error_eq_ok of_bind_ok of_ite_error_ok ok_bind)
open Item (scanned)

variable {ends : List (ℕ × ℕ)} {total : ℕ} {objects : List ScannedObject} {scan : Scan}
  {input : Packet} {items : List Item} {offsets : List ℕ} {trailer : Trailer}
  {referenceSize objectCount : ℕ} {width : ℕ}

def Trailer.bytes (trailer : Trailer) : Packet :=
  List.replicate 6 0 ++ [UInt8.ofNat trailer.offsetSize, UInt8.ofNat trailer.referenceSize] ++
    beBytes 8 trailer.objectCount ++ beBytes 8 trailer.topObject ++
    beBytes 8 trailer.offsetTableStart

/-- The place and the size of each object. -/
def extents (trailer : Trailer) (items : List Item) (offsets : List ℕ) : List (ℕ × ℕ) :=
  offsets.zip (items.map fun item => (item.bytes trailer.referenceSize).length)

/-- The input is a document with these objects at these offsets. -/
structure Written (input : Packet) (trailer : Trailer) (items : List Item) (offsets : List ℕ) :
    Prop where
  offsetSize : 1 ≤ trailer.offsetSize ∧ trailer.offsetSize ≤ 8
  referenceSize : 1 ≤ trailer.referenceSize ∧ trailer.referenceSize ≤ 8
  count : items.length = trailer.objectCount
  top : trailer.topObject < trailer.objectCount
  wellFormed : ∀ item ∈ items,
    item.WellFormed ∧ item.Refers trailer.referenceSize trailer.objectCount
  begins : input.take header.length = header
  objects : List.Forall₂ (fun offset item =>
    slice offset (offset + (item.bytes trailer.referenceSize).length) input =
      item.bytes trailer.referenceSize) offsets items
  tiles : Tiles header.length trailer.offsetTableStart (extents trailer items offsets)
  fits : ∀ offset ∈ offsets, offset < 256 ^ trailer.offsetSize
  table : slice trailer.offsetTableStart
    (trailer.offsetTableStart + trailer.objectCount * trailer.offsetSize) input =
      offsets.flatMap (beBytes trailer.offsetSize)
  trailer_eq : input.drop (trailer.offsetTableStart + trailer.objectCount * trailer.offsetSize) =
    trailer.bytes

/-! ### The trailer -/

section Trailer

lemma length_trailerBytes (trailer : Trailer) : trailer.bytes.length = trailerSize := by
  simp [Trailer.bytes, trailerSize]

lemma slice_append (start stop : ℕ) (before middle after : Packet) (hstart : before.length = start)
    (hstop : start + middle.length = stop) : slice start stop (before ++ middle ++ after) = middle := by
  have hlen : middle.length = stop - start := by omega
  rw [slice, List.append_assoc, List.drop_left' hstart, List.take_left' hlen]

lemma length_slice {start stop : ℕ} (hle : start ≤ stop) (hstop : stop ≤ input.length) :
    (slice start stop input).length = stop - start := by
  rw [slice, List.length_take, length_drop]
  omega

lemma trailerBytes_fields (trailer : Trailer) : trailer.bytes.take 6 = List.replicate 6 0 ∧
      trailer.bytes.getD 6 0 = UInt8.ofNat trailer.offsetSize ∧
      trailer.bytes.getD 7 0 = UInt8.ofNat trailer.referenceSize ∧
      slice 8 16 trailer.bytes = beBytes 8 trailer.objectCount ∧
      slice 16 24 trailer.bytes = beBytes 8 trailer.topObject ∧
      slice 24 32 trailer.bytes = beBytes 8 trailer.offsetTableStart := by
  refine ⟨rfl, rfl, rfl, ?_, ?_, ?_⟩ <;>
    simp [slice, Trailer.bytes, List.drop_append, List.drop_of_length_le]

lemma toNat_ofNat_width (h : width ≤ 8) : (UInt8.ofNat width).toNat = width := by
  exact Nat.mod_eq_of_lt (by omega)

lemma readTrailer_bytes (hoffset : 1 ≤ trailer.offsetSize ∧ trailer.offsetSize ≤ 8)
    (hreference : 1 ≤ trailer.referenceSize ∧ trailer.referenceSize ≤ 8)
    (htop : trailer.topObject < trailer.objectCount) (hcount : trailer.objectCount < 256 ^ 8)
    (hheader : header.length ≤ trailer.offsetTableStart)
    (hstart : trailer.offsetTableStart < 256 ^ 8) (hlength : input.length =
      trailer.offsetTableStart + trailer.objectCount * trailer.offsetSize + trailerSize)
    (htrailer : input.drop (trailer.offsetTableStart + trailer.objectCount * trailer.offsetSize) =
      trailer.bytes) : readTrailer input =
      if trailer.objectCount > maxObjects then .error .invalidTrailer else .ok trailer := by
  have hend : input.length - trailerSize =
      trailer.offsetTableStart + trailer.objectCount * trailer.offsetSize := by omega
  obtain ⟨hzero, hsix, hseven, hfirst, hsecond, hthird⟩ := trailerBytes_fields trailer
  have hread {n : ℕ} (h : n < 256 ^ 8) : readBe (beBytes 8 n) = .ok n :=
    (readBe_ok (length_beBytes _ _)).mpr ⟨by decide, h, rfl⟩
  unfold readTrailer
  dsimp only
  rw [hend, htrailer, if_neg (not_not.mpr hzero), hsix, hseven, toNat_ofNat_width hoffset.2,
    toNat_ofNat_width hreference.2, if_neg (by omega), hfirst, hsecond, hthird,
    ok_bind (hread hcount), ok_bind (hread (by omega)), ok_bind (hread hstart)]
  by_cases hmax : trailer.objectCount > maxObjects
  · rw [if_pos (.inr (.inl hmax)), if_pos hmax]
  · rw [if_neg (by omega), if_neg (by omega), if_neg (by omega), if_neg hmax]

lemma readTrailer_inv (hlong : header.length + trailerSize ≤ input.length)
    (h : readTrailer input = .ok trailer) : (1 ≤ trailer.offsetSize ∧ trailer.offsetSize ≤ 8) ∧
      (1 ≤ trailer.referenceSize ∧ trailer.referenceSize ≤ 8) ∧
      trailer.objectCount ≤ maxObjects ∧ trailer.topObject < trailer.objectCount ∧
      header.length ≤ trailer.offsetTableStart ∧ input.length =
        trailer.offsetTableStart + trailer.objectCount * trailer.offsetSize + trailerSize ∧
      input.drop (trailer.offsetTableStart + trailer.objectCount * trailer.offsetSize) =
        trailer.bytes := by
  simp only [readTrailer, ite_error_eq_ok, bind_eq_ok, not_not] at h
  have hlen : (input.drop (input.length - trailerSize)).length = 32 := by
    rw [length_drop]
    unfold trailerSize at *
    omega
  generalize htrailer : input.drop (input.length - trailerSize) = bytes at *
  have hslice (start : ℕ) (hle : start + 8 ≤ 32) : (slice start (start + 8) bytes).length = 8 := by
    rw [length_slice (by omega) (by omega)]
    omega
  obtain ⟨hzero, hwidths, objectCount, hfirst, topObject, hsecond, offsetTableStart, hthird, hcount,
    hstart, hend, ⟨⟩⟩ := h
  obtain ⟨-, -, hfirst⟩ := (readBe_ok (hslice 8 (by omega))).mp hfirst
  obtain ⟨-, -, hsecond⟩ := (readBe_ok (hslice 16 (by omega))).mp hsecond
  obtain ⟨-, -, hthird⟩ := (readBe_ok (hslice 24 (by omega))).mp hthird
  refine ⟨by dsimp only; omega, by dsimp only; omega, by dsimp only; omega, by dsimp only; omega,
    by dsimp only; omega, by dsimp only; omega, ?_⟩
  rw [hend, htrailer, Trailer.bytes, UInt8.ofNat_toNat, UInt8.ofNat_toNat, ← hzero, ← hfirst,
    ← hsecond, ← hthird]
  match bytes, hlen with
  | _ :: _ :: _ :: _ :: _ :: _ :: _ :: _ :: rest, hlen =>
    have hrest : ((rest.drop 8).drop 8).take 8 = (rest.drop 8).drop 8 :=
      List.take_of_length_le (by simp at hlen ⊢; omega)
    have hall : rest = rest.take 8 ++ ((rest.drop 8).take 8 ++ ((rest.drop 8).drop 8).take 8) := by
      rw [hrest, List.take_append_drop, List.take_append_drop]
    simpa [slice] using hall

end Trailer

/-! ### What is scanned is a document -/

section Scanned

variable {starts : List ℕ} {bytes : List Packet}

lemma hasRepeat_false (hsorted : starts.Pairwise (· ≤ ·))
    (h : ¬ hasRepeat starts = true) : starts.Pairwise (· < ·) := by
  induction starts with
  | nil => exact List.Pairwise.nil
  | cons first starts ih =>
    cases starts with
    | nil => exact List.pairwise_singleton _ _
    | cons second starts =>
      rw [hasRepeat, Bool.or_eq_true, decide_eq_true_eq, not_or] at h
      have hrest := ih hsorted.of_cons h.2
      have hle : first ≤ second := List.rel_of_pairwise_cons hsorted mem_cons_self
      have hlt : first < second := lt_of_le_of_ne hle h.1
      refine List.Pairwise.cons (fun other hother => ?_) hrest
      rcases mem_cons.mp hother with rfl | hother
      · exact hlt
      · exact lt_trans hlt (List.rel_of_pairwise_cons hrest hother)

lemma hasRepeat_of_sorted (h : starts.Pairwise (· < ·)) : hasRepeat starts = false := by
  induction starts with
  | nil => rfl
  | cons first starts ih =>
    cases starts with
    | nil => rfl
    | cons second starts =>
      have hlt : first < second := List.rel_of_pairwise_cons h mem_cons_self
      rw [hasRepeat, ih h.of_cons, decide_eq_false (ne_of_lt hlt)]
      rfl

lemma extentsOf_inv (h : extentsOf input ends offsets = .ok bytes) :
    List.Forall₂ (fun offset object => ∃ stop, ends.lookup offset = some stop ∧
      object = slice offset stop input) offsets bytes := by
  induction offsets generalizing bytes with
  | nil =>
    cases h
    exact List.Forall₂.nil
  | cons offset offsets ih =>
    unfold extentsOf at h
    split at h
    · cases h
    next stop hstop =>
    obtain ⟨rest, hrest, h⟩ := of_bind_ok h
    cases h
    exact List.Forall₂.cons ⟨stop, hstop, rfl⟩ (ih hrest)

lemma scanObjects_inv (hwidth : 1 ≤ referenceSize ∧ referenceSize ≤ 8)
    (h : scanObjects referenceSize objectCount bytes total = .ok objects) :
    ∃ items : List Item, (∀ item ∈ items, item.WellFormed ∧ item.Refers referenceSize objectCount) ∧
      bytes = items.map (Item.bytes referenceSize) ∧ objects = items.map scanned := by
  induction bytes generalizing total objects with
  | nil =>
    cases h
    exact ⟨[], nofun, rfl, rfl⟩
  | cons first bytes ih =>
    obtain ⟨object, hobject, h⟩ := of_bind_ok h
    obtain ⟨-, h⟩ := of_ite_error_ok h
    obtain ⟨rest, hrest, h⟩ := of_bind_ok h
    cases h
    obtain ⟨item, hwf, hrefers, rfl, rfl⟩ := (scanObject_ok hwidth).mp hobject
    obtain ⟨items, hitems, rfl, rfl⟩ := ih hrest
    refine ⟨item :: items, fun other hother => ?_, rfl, rfl⟩
    rcases mem_cons.mp hother with rfl | hother
    · exact ⟨hwf, hrefers⟩
    · exact hitems other hother

lemma orderedOffsets_perm (offsets : List ℕ) : (orderedOffsets offsets).Perm offsets :=
  List.perm_insertionSort _ _

lemma orderedOffsets_sorted (offsets : List ℕ) : (orderedOffsets offsets).Pairwise (· ≤ ·) :=
  List.pairwise_insertionSort _ _

lemma bounds_of_lookup {lo hi offset stop : ℕ} (hsorted : starts.Pairwise (· < ·))
    (hhead : starts.head? = some lo) (hhi : ∀ start ∈ starts, start < hi)
    (h : (Tiling.ends starts hi).lookup offset = some stop) : offset < stop ∧ stop ≤ hi := by
  obtain ⟨before, after, hsplit, -⟩ := List.lookup_eq_some_iff.mp h
  have hmem : (offset, stop) ∈ Tiling.ends starts hi := by
    rw [hsplit]
    exact List.mem_append_right _ mem_cons_self
  have hbounds := (Tiling.contiguous_of_sorted hsorted hhead hhi).bounds.2 _
    (List.mem_map_of_mem hmem)
  omega

/-- The places of the objects tile the range when every object ends where the next one begins. -/
lemma tiles_of_ordered {lo hi : ℕ} (hsorted : (orderedOffsets offsets).Pairwise (· < ·))
    (hhead : (orderedOffsets offsets).head? = some lo) (hhi : ∀ offset ∈ offsets, offset < hi)
    (hinput : hi ≤ input.length) (hobjects : List.Forall₂ (fun offset object => ∃ stop,
      (Tiling.ends (orderedOffsets offsets) hi).lookup offset = some stop ∧
        object = slice offset stop input) offsets bytes) :
    Tiles lo hi (offsets.zip (bytes.map List.length)) ∧
      List.Forall₂ (fun offset object => slice offset (offset + object.length) input = object)
        offsets bytes := by
  have hhi' : ∀ start ∈ orderedOffsets offsets, start < hi := fun start hstart =>
    hhi start ((orderedOffsets_perm offsets).mem_iff.mp hstart)
  have hcontiguous := Tiling.contiguous_of_sorted hsorted hhead hhi'
  generalize hends : Tiling.ends (orderedOffsets offsets) hi = ends at hobjects hcontiguous
  -- the size of an object is what its end says
  have hsize {offset : ℕ} {object : Packet} (h : ∃ stop, ends.lookup offset = some stop ∧
      object = slice offset stop input) : ends.lookup offset = some (offset + object.length) ∧
        slice offset (offset + object.length) input = object := by
    obtain ⟨stop, hstop, rfl⟩ := h
    have hbounds := bounds_of_lookup hsorted hhead hhi' (hends ▸ hstop)
    have hsum : offset + (slice offset stop input).length = stop := by
      rw [length_slice (by omega) (by omega)]
      omega
    rw [hsum]
    exact ⟨hstop, rfl⟩
  have hsizes : offsets.zip (bytes.map List.length) =
      offsets.map fun offset => (offset, (ends.lookup offset).getD 0 - offset) := by
    clear hhi hhi' hsorted hhead hends hcontiguous
    induction hobjects with
    | nil => rfl
    | cons hobject _ ih =>
      rw [map_cons, List.zip_cons_cons, map_cons, ih, (hsize hobject).1, Option.getD_some,
        Nat.add_sub_cancel_left]
  have horder : (ends.map fun e => (e.1, e.2 - e.1)) =
      (orderedOffsets offsets).map fun offset => (offset, (ends.lookup offset).getD 0 - offset) := by
    conv_rhs => rw [← Tiling.fst_ends (orderedOffsets offsets) hi, hends, List.map_map]
    refine List.map_congr_left fun e he => ?_
    rw [← hends] at he
    have hstop := Tiling.lookup_of_mem_ends hsorted he
    rw [hends] at hstop
    rw [Function.comp_apply, hstop]
    rfl
  refine ⟨⟨_, ?_, hcontiguous⟩, hobjects.imp fun _ _ h => (hsize h).2⟩
  rw [hsizes, horder]
  exact (orderedOffsets_perm offsets).map _

/-- What is placed fills the range from the header to the table. -/
lemma placeObjects_inv (h : placeObjects input = .ok (trailer, bytes)) :
    input.length ≤ maxPlistSize ∧ header.length + trailerSize ≤ input.length ∧
      input.take header.length = header ∧ readTrailer input = .ok trailer ∧
      ∃ offsets, offsets.length = trailer.objectCount ∧
        (∀ offset ∈ offsets, offset < 256 ^ trailer.offsetSize) ∧
        (input.drop trailer.offsetTableStart).take (trailer.objectCount * trailer.offsetSize) =
          offsets.flatMap (beBytes trailer.offsetSize) ∧
        Tiles header.length trailer.offsetTableStart (offsets.zip (bytes.map List.length)) ∧
        List.Forall₂ (fun offset object => slice offset (offset + object.length) input = object)
          offsets bytes := by
  obtain ⟨hsize, h⟩ := of_ite_error_ok h
  obtain ⟨hlong, h⟩ := of_ite_error_ok h
  obtain ⟨hheader, h⟩ := of_ite_error_ok h
  obtain ⟨trailer', htrailer, h⟩ := of_bind_ok h
  obtain ⟨offsets, hoffsets, h⟩ := of_bind_ok h
  obtain ⟨hordered, h⟩ := of_ite_error_ok h
  obtain ⟨bytes', hbytes, h⟩ := of_bind_ok h
  cases h
  obtain ⟨hoffset, -, -, -, -, hlength, -⟩ := readTrailer_inv (not_lt.mp hlong) htrailer
  obtain ⟨hhead, hrepeat⟩ := not_or.mp hordered
  have htable : trailer.objectCount * trailer.offsetSize ≤
      (input.drop trailer.offsetTableStart).length := by
    rw [length_drop]
    omega
  obtain ⟨hcount, hwords, hfits⟩ := (readWords_ok hoffset htable).mp hoffsets
  have hbelow : ∀ offset ∈ offsets, offset < trailer.offsetTableStart := by
    intro offset hoffset
    have haccepts := (hfits offset hoffset).1
    exact of_decide_eq_true (Bool.and_eq_true_iff.mp haccepts).2
  exact ⟨not_lt.mp hsize, not_lt.mp hlong, not_not.mp hheader, htrailer, offsets, hcount,
    fun offset hmem => (hfits offset hmem).2, hwords, tiles_of_ordered
      (hasRepeat_false (orderedOffsets_sorted offsets) hrepeat) (not_not.mp hhead) hbelow (by omega)
      (extentsOf_inv hbytes)⟩

/-- Whatever is scanned is a document, and the scan shows its objects. -/
lemma scanDocument_inv (h : scanDocument input = .ok (trailer, scan)) :
    ∃ items offsets, Written input trailer items offsets ∧
      scan = ⟨items.map (Item.bytes trailer.referenceSize), items.map scanned⟩ := by
  obtain ⟨⟨trailer', bytes⟩, hplace, h⟩ := of_bind_ok h
  obtain ⟨objects, hobjects, h⟩ := of_bind_ok h
  cases h
  obtain ⟨-, hlong, hheader, htrailer, offsets, hcount, hfits, hwords, htiles, hforall⟩ :=
    placeObjects_inv hplace
  obtain ⟨hoffset, hreference, -, htop, -, -, hend⟩ := readTrailer_inv hlong htrailer
  obtain ⟨items, hitems, rfl, rfl⟩ := scanObjects_inv hreference hobjects
  rw [List.map_map] at htiles
  rw [List.forall₂_map_right_iff] at hforall
  refine ⟨items, offsets, ⟨hoffset, hreference, ?_, htop, hitems, hheader, hforall, htiles, hfits, ?_,
    hend⟩, rfl⟩
  · rw [← hcount, ← hforall.length_eq]
  · rw [slice, Nat.add_sub_cancel_left]
    exact hwords

end Scanned

/-! ### The scan of a document -/

section Documents

lemma Written.length_eq (h : Written input trailer items offsets) : input.length =
      trailer.offsetTableStart + trailer.objectCount * trailer.offsetSize + trailerSize := by
  have hlen := congrArg List.length h.trailer_eq
  rw [length_trailerBytes, length_drop] at hlen
  simp only [trailerSize] at *
  omega

lemma Written.place (h : Written input trailer items offsets) :
    ∀ extent ∈ extents trailer items offsets, header.length ≤ extent.1 ∧ 0 < extent.2 ∧
      extent.1 + extent.2 ≤ trailer.offsetTableStart := by
  obtain ⟨order, hperm, hcontiguous⟩ := h.tiles
  intro extent hextent
  exact hcontiguous.bounds.2 extent (hperm.mem_iff.mpr hextent)

lemma fst_extents (h : offsets.length = items.length) :
    (extents trailer items offsets).map Prod.fst = offsets := by
  refine List.map_fst_zip ?_
  rw [List.length_map]
  omega

/-- The order in which the offsets are sorted is that of the objects. -/
lemma Written.ordered (h : Written input trailer items offsets) :
    ∃ order, order.Perm (extents trailer items offsets) ∧
      Contiguous header.length order trailer.offsetTableStart ∧
      orderedOffsets offsets = order.map Prod.fst := by
  obtain ⟨order, hperm, hcontiguous⟩ := h.tiles
  refine ⟨order, hperm, hcontiguous, ?_⟩
  have hstarts : (order.map Prod.fst).Perm offsets := by
    have hmap := hperm.map Prod.fst
    rwa [fst_extents h.objects.length_eq] at hmap
  refine List.Perm.eq_of_pairwise (fun a b _ _ hab hba => Nat.le_antisymm hab hba)
    (orderedOffsets_sorted offsets) (hcontiguous.sorted.imp le_of_lt) ?_
  exact (orderedOffsets_perm offsets).trans hstarts.symm

lemma extentsOf_eq
    (hlookup : ∀ extent ∈ offsets.zip (items.map fun item => (item.bytes width).length),
      ends.lookup extent.1 = some (extent.1 + extent.2))
    (hobjects : List.Forall₂ (fun offset item =>
      slice offset (offset + (item.bytes width).length) input = item.bytes width) offsets items) :
    extentsOf input ends offsets = .ok (items.map (Item.bytes width)) := by
  induction hobjects with
  | nil => rfl
  | @cons offset item offsets items hobject _ ih =>
    have hfirst := hlookup (offset, (item.bytes width).length) mem_cons_self
    have hrest := ih fun extent hextent => hlookup extent (List.mem_cons_of_mem _ hextent)
    rw [extentsOf, hfirst]
    dsimp only
    rw [ok_bind hrest, hobject]
    rfl

/-- The scan finds the objects of a document, and then it looks at them. -/
lemma scanDocument_written (h : Written input trailer items offsets)
    (hlength : input.length ≤ maxPlistSize) :
    scanDocument input = if trailer.objectCount > maxObjects then .error .invalidTrailer
      else scanObjects trailer.referenceSize trailer.objectCount
        (items.map (Item.bytes trailer.referenceSize)) 0 >>= fun objects =>
          .ok (trailer, ⟨items.map (Item.bytes trailer.referenceSize), objects⟩) := by
  have hlen := h.length_eq
  have hmax : maxPlistSize < 256 ^ 8 := by decide
  have hcount : trailer.objectCount * 1 ≤ trailer.objectCount * trailer.offsetSize :=
    Nat.mul_le_mul_left _ h.offsetSize.1
  obtain ⟨order, hperm, hcontiguous, hordered⟩ := h.ordered
  have hpositive : 0 < items.length := by
    have htop := h.top
    rw [h.count]
    omega
  -- the first object begins behind the header
  have hhead : (orderedOffsets offsets).head? = some header.length := by
    rw [hordered]
    cases order with
    | nil =>
      have hzero := hperm.length_eq
      rw [extents, List.length_zip, h.objects.length_eq] at hzero
      simp at hzero
      omega
    | cons extent order => exact congrArg some hcontiguous.1
  have hheader : header.length ≤ trailer.offsetTableStart := hcontiguous.bounds.1
  have hoffsets : readOffsets trailer (input.drop trailer.offsetTableStart) = .ok offsets := by
    have htable := h.table
    rw [slice, Nat.add_sub_cancel_left] at htable
    have haccepts : ∀ offset ∈ offsets,
        (decide (header.length ≤ offset) && decide (offset < trailer.offsetTableStart)) = true ∧
          offset < 256 ^ trailer.offsetSize := by
      intro offset hoffset
      refine ⟨?_, h.fits offset hoffset⟩
      rw [← fst_extents h.objects.length_eq] at hoffset
      obtain ⟨extent, hextent, rfl⟩ := List.mem_map.mp hoffset
      have hplace := h.place extent hextent
      rw [decide_eq_true hplace.1,
        decide_eq_true (show extent.1 < trailer.offsetTableStart by omega)]
      rfl
    refine (readWords_ok h.offsetSize ?_).mpr ⟨by rw [h.objects.length_eq, h.count], htable,
      haccepts⟩
    rw [length_drop]
    omega
  have hextents : extentsOf input (endsByOffset (orderedOffsets offsets) trailer.offsetTableStart)
      offsets = .ok (items.map (Item.bytes trailer.referenceSize)) := by
    refine extentsOf_eq (fun extent hextent => ?_) h.objects
    rw [hordered]
    exact hcontiguous.lookup (hperm.mem_iff.mpr hextent)
  have hrepeat : hasRepeat (orderedOffsets offsets) = false := by
    rw [hordered]
    exact hasRepeat_of_sorted hcontiguous.sorted
  have htrailer := readTrailer_bytes h.offsetSize h.referenceSize h.top (by omega) hheader (by omega)
    hlen h.trailer_eq
  rw [scanDocument, placeObjects, if_neg (by omega), if_neg (by omega),
    if_neg (not_not.mpr h.begins), htrailer]
  split
  · rfl
  · rw [ok_bind rfl, ok_bind hoffsets, if_neg (by rw [hhead, hrepeat]; simp), ok_bind hextents,
      ok_bind rfl]

variable (hitems : ∀ item ∈ items, item.WellFormed ∧ item.Refers referenceSize objectCount)
  (hwidth : 1 ≤ referenceSize ∧ referenceSize ≤ 8)
include hitems hwidth

lemma scanObjects_ok (htotal : total ≤ maxReferences) :
    scanObjects referenceSize objectCount (items.map (Item.bytes referenceSize)) total = .ok objects ↔
      objects = items.map scanned ∧
        total + (items.map fun item => item.children.length).sum ≤ maxReferences := by
  induction items generalizing total objects with
  | nil => simp [scanObjects, htotal, eq_comm]
  | cons item items ih =>
    obtain ⟨hwf, hrefers⟩ := hitems item mem_cons_self
    have hscan := (scanObject_ok hwidth).mpr ⟨item, hwf, hrefers, rfl, rfl⟩
    have hbehind := (List.forall_mem_cons.mp hitems).2
    have hchildren : item.scanned.children = item.children := rfl
    simp only [map_cons, List.sum_cons, scanObjects, ok_bind hscan, ite_error_eq_ok, bind_eq_ok,
      Except.ok.injEq, hchildren]
    constructor
    · rintro ⟨hfew, rest, hrest, rfl⟩
      obtain ⟨rfl, hsum⟩ := (ih hbehind (by omega)).mp hrest
      exact ⟨rfl, by omega⟩
    · rintro ⟨rfl, hsum⟩
      exact ⟨by omega, _, (ih hbehind (by omega)).mpr ⟨rfl, by omega⟩, rfl⟩

end Documents

section Documents

variable {trailer' : Trailer}

variable (h : Written input trailer items offsets)

include h

lemma Written.scan_eq (hscan : scanDocument input = .ok (trailer', scan)) : trailer' = trailer ∧
      scan = ⟨items.map (Item.bytes trailer.referenceSize), items.map scanned⟩ := by
  obtain ⟨_, hplace, -⟩ := of_bind_ok hscan
  rw [scanDocument_written h (placeObjects_inv hplace).1] at hscan
  obtain ⟨-, hscan⟩ := of_ite_error_ok hscan
  obtain ⟨objects, hobjects, hscan⟩ := of_bind_ok hscan
  cases hscan
  obtain ⟨rfl, -⟩ := (scanObjects_ok h.wellFormed h.referenceSize (Nat.zero_le _)).mp hobjects
  exact ⟨rfl, rfl⟩

lemma Written.scan_ok
    (hlength : input.length ≤ maxPlistSize) (hcount : trailer.objectCount ≤ maxObjects)
    (hreferences : (items.map fun item => item.children.length).sum ≤ maxReferences) :
    scanDocument input = .ok (trailer,
      ⟨items.map (Item.bytes trailer.referenceSize), items.map scanned⟩) := by
  rw [scanDocument_written h hlength, if_neg (by omega),
    ok_bind ((scanObjects_ok h.wellFormed h.referenceSize (Nat.zero_le _)).mpr ⟨rfl, by omega⟩)]

end Documents

/-! ### Accepted documents -/

def Item.keys : Item → List ℕ
  | .dictionary _ keys _ => keys
  | _ => []

/-- One object names another. -/
def Links (items : List Item) (parent child : ℕ) : Prop :=
  ∃ item, items[parent]? = some item ∧ child ∈ item.children

section Accepted

lemma childrenOf_map {index child : ℕ} :
    Below (items.map scanned) child index ↔ Links items index child := by
  unfold Below Links childrenOf
  rw [List.getElem?_map]
  cases items[index]? with
  | none => simp
  | some item =>
    show child ∈ item.children ↔ _
    simp

lemma take_keyCount (item : Item) : item.children.take item.keyCount = item.keys := by
  cases item with
  | dictionary form keys values => exact List.take_left
  | _ => rfl

lemma keys_of_check (h : keysAreStrings (items.map scanned) = true) :
    ∀ item ∈ items, ∀ key ∈ item.keys, ∃ target, items[key]? = some target ∧ target.kind = .string := by
  intro item hitem key hkey
  have hobject := List.all_eq_true.mp h item.scanned (List.mem_map_of_mem hitem)
  have htake : item.scanned.children.take item.scanned.dictionaryKeyCount = item.keys :=
    take_keyCount item
  rw [htake] at hobject
  have hkind := of_decide_eq_true (List.all_eq_true.mp hobject key hkey)
  unfold kindOf at hkind
  rw [List.getElem?_map] at hkind
  cases htarget : items[key]? with
  | none =>
    rw [htarget] at hkind
    cases hkind
  | some target =>
    rw [htarget] at hkind
    exact ⟨target, rfl, Option.some.inj hkind⟩

/-- What was read before the top object is decoded, and what was checked. -/
lemma decode_inv {value : Value} (h : decode input = .ok value) :
    ∃ trailer scan colors budget, scanDocument input = .ok (trailer, scan) ∧
      keysAreStrings scan.objects = true ∧ validateGraph scan.objects = .ok colors ∧
      decodeObject scan (maxDepth + 1) trailer.topObject ⟨0, 0⟩ = .ok (value, budget) := by
  obtain ⟨⟨trailer, scan⟩, hscan, h⟩ := of_bind_ok h
  obtain ⟨hkeys, h⟩ := of_ite_error_ok h
  obtain ⟨colors, hgraph, h⟩ := of_bind_ok h
  obtain ⟨⟨value', budget⟩, hvalue, h⟩ := of_bind_ok h
  cases h
  exact ⟨trailer, scan, colors, budget, hscan, by simpa using hkeys, hgraph, hvalue⟩

lemma acyclic_of_validated (hrange : ∀ item ∈ items, ∀ child ∈ item.children, child < items.length)
    {colors : List Color} (h : validateGraph (items.map scanned) = .ok colors) (index : ℕ) :
    ¬ Relation.TransGen (Links items) index index := by
  have hchildren : ∀ index, ∀ child ∈ childrenOf (items.map scanned) index,
      child < (items.map scanned).length := by
    intro index child hchild
    obtain ⟨item, hitem, hmem⟩ := childrenOf_map.mp hchild
    rw [List.length_map]
    exact hrange item (List.mem_of_getElem? hitem) child hmem
  have hwf : WellFounded (Below (items.map scanned)) := ⟨validateGraph_acc hchildren h⟩
  have hirrefl := hwf.transGen
  intro hcycle
  have hbelow : Relation.TransGen (Below (items.map scanned)) index index := by
    rw [← Relation.transGen_swap]
    exact Relation.TransGen.mono (fun a b hlink => childrenOf_map.mpr hlink) _ _ hcycle
  exact hirrefl.asymmetric _ _ hbelow hbelow

lemma Written.range (h : Written input trailer items offsets) :
    ∀ item ∈ items, ∀ child ∈ item.children, child < items.length := by
  intro item hitem child hchild
  rw [h.count]
  exact ((h.wellFormed item hitem).2 child hchild).1

/-- An accepted byte string is a document: its objects lie side by side between the header and the
table, and in the graph of all of them every reference names an object, keys are strings, and there
is no cycle. -/
theorem accepted_documents_are_sound {input : Packet} {value : Value} (h : decode input = .ok value) :
    ∃ trailer items offsets, Written input trailer items offsets ∧
      (∀ item ∈ items, ∀ child ∈ item.children, child < items.length) ∧
      (∀ item ∈ items, ∀ key ∈ item.keys,
        ∃ target, items[key]? = some target ∧ target.kind = .string) ∧
      ∀ index, ¬ Relation.TransGen (Links items) index index := by
  obtain ⟨trailer, scan, colors, budget, hscan, hkeys, hgraph, -⟩ := decode_inv h
  obtain ⟨items, offsets, hwritten, rfl⟩ := scanDocument_inv hscan
  exact ⟨trailer, items, offsets, hwritten, hwritten.range, keys_of_check hkeys,
    acyclic_of_validated hwritten.range hgraph⟩

/-- A dictionary with an array that names one object twice. -/
def sharedDocument : Packet :=
  header ++ [0xd1, 0x01, 0x02, 0x51, 0x61, 0xa2, 0x03, 0x03, 0x00] ++ [8, 11, 13, 16] ++
    Trailer.bytes ⟨1, 1, 4, 0, 17⟩

set_option maxRecDepth 4000 in
lemma decode_sharedDocument :
    decode sharedDocument = .ok (.dictionary [("a", .array [.null, .null])]) := rfl

theorem sharedDocument_is_sound :
    ∃ trailer items offsets, Written sharedDocument trailer items offsets ∧
      (∀ item ∈ items, ∀ child ∈ item.children, child < items.length) ∧
      (∀ item ∈ items, ∀ key ∈ item.keys,
        ∃ target, items[key]? = some target ∧ target.kind = .string) ∧
      ∀ index, ¬ Relation.TransGen (Links items) index index :=
  accepted_documents_are_sound decode_sharedDocument

end Accepted

variable {item : Item}

/-- What the scan of a document found. -/
def scanOf (width : ℕ) (items : List Item) : Scan :=
  ⟨items.map (Item.bytes width), items.map Item.scanned⟩

/-- One step of the decoder, in terms of the objects. -/
lemma decodeObject_item (hwf : ∀ item ∈ items, item.WellFormed) (levels : ℕ) {index : ℕ}
    (hitem : items[index]? = some item) (budget : DecodeBudget) :
    decodeObject (scanOf width items) (levels + 1) index budget =
      (budget.chargeNode >>= item.decode (decodeObject (scanOf width items) levels)) := by
  have hbytes : (items.map (Item.bytes width))[index]? = some (item.bytes width) := by
    rw [List.getElem?_map, hitem]
    rfl
  have hscanned : (items.map Item.scanned)[index]? = some item.scanned := by
    rw [List.getElem?_map, hitem]
    rfl
  refine congrArg (budget.chargeNode >>= ·) (funext fun budget => ?_)
  rw [scanOf]
  rw [hbytes, hscanned]
  exact decodePayload_item (hwf item (List.mem_of_getElem? hitem)) _ budget

end T1Bridge.Wire
