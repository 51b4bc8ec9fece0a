import T1Bridge.Wire.PlistLayout

/-! # What the encoder writes

`itemOf` is an object of the encoder in the form in which it is written: the shortest length, the
narrowest integer, ASCII where the text allows it.  An encoder that succeeds has appended the bytes
of its objects, in order, and then the table and the trailer. -/

namespace T1Bridge.Wire

open List (append_assoc flatMap_cons length_append length_cons)
open Tiling (Contiguous)

variable {object : EncodedObject}

/-! ### Writers that append -/

/-- The writer appends these bytes where they fit, and reports where they do not. -/
def Appends (f : Writer) (bytes : Packet) : Prop :=
  ∀ output : Packet, output.length ≤ maxPlistSize →
    f output = if output.length + bytes.length ≤ maxPlistSize then .ok (output ++ bytes)
      else .error .outputTooLarge

section Appends

variable {f g : Writer} {bytes bytes' : Packet}

lemma appends_append (bytes : Packet) : Appends (append bytes) bytes := by
  intro output _
  unfold append
  split
  · next hlarge => rw [if_neg (by omega)]
  · next hfit => rw [if_pos (by omega)]

lemma appends_push (byte : UInt8) : Appends (push byte) [byte] := by
  intro output _
  unfold push
  rw [List.length_singleton]
  split
  · next hlarge => rw [if_neg (by omega)]
  · next hfit => rw [if_pos (by omega)]

lemma Appends.seq (hf : Appends f bytes) (hg : Appends g bytes') :
    Appends (f.seq g) (bytes ++ bytes') := by
  intro output hlen
  rw [Writer.seq, hf output hlen, length_append]
  by_cases hfit : output.length + bytes.length ≤ maxPlistSize
  · have hlen' : (output ++ bytes).length ≤ maxPlistSize := by rwa [length_append]
    rw [if_pos hfit]
    dsimp only
    rw [hg _ hlen', length_append, append_assoc, Nat.add_assoc]
  · rw [if_neg hfit, if_neg (by omega)]

lemma appends_appendBe {width : ℕ} (value : ℕ) (h : width = 1 ∨ width = 2 ∨ width = 4 ∨ width = 8) :
    Appends (appendBe value width) (beBytes width value) := by
  rw [appendBe, if_pos h]
  exact appends_append _

lemma appends_writeAll {α : Type} {f : α → Writer} {g : α → Packet} {xs : List α}
    (h : ∀ x ∈ xs, Appends (f x) (g x)) : Appends (writeAll (xs.map f)) (xs.flatMap g) := by
  induction xs with
  | nil =>
    intro output hlen
    rw [List.flatMap_nil, List.append_nil, List.length_nil, Nat.add_zero, if_pos hlen]
    rfl
  | cons x xs ih =>
    exact (h x List.mem_cons_self).seq (ih fun y hy => h y (List.mem_cons_of_mem _ hy))

end Appends

/-! ### Objects -/

def formOf (length : ℕ) : LengthForm :=
  if length < 15 then .inline else .word (Nat.log2 (integerStorageWidth length))

/-- The width of an integer, as a power of two. -/
def exponentOf (value : ℤ) : ℕ :=
  if value < 0 then 3
  else if integerStorageWidth value.toNat < 8 then Nat.log2 (integerStorageWidth value.toNat)
  else if value < 2 ^ 63 then 3
  else 4

def itemOf : EncodedObject → Item
  | .null => .null
  | .boolean value => .boolean value
  | .integer value => .integer (exponentOf value) value
  | .data value => .data (formOf value.length) value
  | .string value =>
    if isAscii value then .ascii (formOf value.utf8ByteSize) value.toUTF8.data.toList
    else .utf16 (formOf (encodeUtf16 value).length) (encodeUtf16 value)
  | .array references => .array (formOf references.length) references
  | .dictionary keys values => .dictionary (formOf keys.length) keys values

lemma width_log2 (value : ℕ) :
    2 ^ Nat.log2 (integerStorageWidth value) = integerStorageWidth value ∧
      Nat.log2 (integerStorageWidth value) ≤ 3 := by
  rcases integerStorageWidth_cases value with h | h | h | h <;> rw [h] <;> decide

lemma lt_storageWidth {value : ℕ} (h : value < 2 ^ 64) : value < 256 ^ integerStorageWidth value := by
  unfold integerStorageWidth
  split
  · next hlt => exact hlt
  split
  · next hlt => exact hlt
  split
  · next hlt => exact hlt
  · exact h

lemma formOf_fits {length : ℕ} (h : length ≤ maxPlistSize) : (formOf length).Fits length := by
  unfold formOf
  split
  · next hlt => exact hlt
  obtain ⟨hwidth, hexp⟩ := width_log2 length
  have hmax : maxPlistSize < 2 ^ 64 := by decide
  refine ⟨hexp, ?_, le_trans h (Nat.le_max_right _ _)⟩
  rw [hwidth]
  exact lt_storageWidth (by omega)

lemma appends_encodeLength (marker : UInt8) (length : ℕ) : Appends (encodeLength marker length)
      ((marker ||| (formOf length).low length) :: (formOf length).rest length) := by
  unfold encodeLength formOf
  split
  · exact appends_push _
  have hword := appends_appendBe length (integerStorageWidth_cases length)
  rw [LengthForm.rest, (width_log2 length).1]
  exact (appends_push _).seq ((appends_push _).seq hword)

variable {value : ℤ} {width : ℕ}

lemma beBytes_zeros {value : ℕ} (h : value < 256 ^ width) (count : ℕ) :
    beBytes (count + width) value = List.replicate count 0 ++ beBytes width value := by
  induction count with
  | zero => rw [Nat.zero_add, List.replicate_zero, List.nil_append]
  | succ count ih =>
    have hlt : value < 256 ^ (count + width) :=
      lt_of_lt_of_le h (Nat.pow_le_pow_right (by decide) (Nat.le_add_left _ _))
    rw [Nat.add_right_comm, beBytes_succ, Nat.div_eq_of_lt hlt, ih]
    rfl

lemma appends_encodeInteger (h : inWireRange value = true) : Appends (encodeInteger value)
      ((0x10 ||| UInt8.ofNat (exponentOf value)) :: integerBytes (exponentOf value) value) := by
  obtain ⟨hlow, hhigh⟩ := inWireRange_iff.mp h
  unfold encodeInteger exponentOf
  split
  · have hbytes : integerBytes 3 value = beBytes 8 (value + 2 ^ 64).toNat := by
      have hmod : value % (256 ^ 2 ^ 3 : ℕ) = value + 2 ^ 64 := by
        rw [← Int.add_emod_right, Int.emod_eq_of_lt (by norm_num; omega) (by norm_num; omega)]
        norm_num
      rw [integerBytes, hmod]
      rfl
    rw [hbytes]
    exact (appends_push _).seq (appends_append _)
  have hnat : value.toNat < 2 ^ 64 := by omega
  have hplain : ∀ {exponent : ℕ}, value.toNat < 256 ^ 2 ^ exponent →
      integerBytes exponent value = beBytes (2 ^ exponent) value.toNat := by
    intro exponent hlt
    rw [integerBytes, Int.emod_eq_of_lt (by omega) (by omega)]
  split
  · have hlt := lt_storageWidth hnat
    rw [← (width_log2 value.toNat).1] at hlt
    rw [hplain hlt, (width_log2 value.toNat).1]
    exact (appends_push _).seq (appends_appendBe _ (integerStorageWidth_cases _))
  split
  · rw [hplain (by norm_num; omega)]
    exact (appends_push _).seq (appends_appendBe _ (by simp))
  have hbytes : integerBytes 4 value = List.replicate 8 0 ++ beBytes 8 value.toNat := by
    rw [hplain (by norm_num; omega)]
    exact beBytes_zeros (by norm_num; omega) 8
  rw [hbytes]
  exact (appends_push _).seq ((appends_append _).seq (appends_appendBe _ (by simp)))

lemma integerFits_exponentOf (h : inWireRange value = true) :
    IntegerFits (exponentOf value) value := by
  obtain ⟨hlow, hhigh⟩ := inWireRange_iff.mp h
  unfold exponentOf
  split
  · next hneg => exact ⟨hlow, by omega⟩
  have hlt : value.toNat < 256 ^ integerStorageWidth value.toNat := lt_storageWidth (by omega)
  split
  · rcases integerStorageWidth_cases value.toNat with hw | hw | hw | hw
    · rw [hw] at hlt ⊢
      exact ⟨by omega, by norm_num at hlt ⊢; omega⟩
    · rw [hw] at hlt ⊢
      exact ⟨by omega, by norm_num at hlt ⊢; omega⟩
    · rw [hw] at hlt ⊢
      exact ⟨by omega, by norm_num at hlt ⊢; omega⟩
    · omega
  split
  · next hsmall => exact ⟨by omega, hsmall⟩
  · exact h

lemma length_toUTF8 (text : String) : text.toUTF8.data.toList.length = text.utf8ByteSize := by
  simp

/-- The integers of an object are in range. -/
def EncodedObject.InRange : EncodedObject → Prop
  | .integer value => inWireRange value = true
  | _ => True

lemma appends_encodeObject (hwidth : width = 1 ∨ width = 2 ∨ width = 4 ∨ width = 8)
    (h : object.InRange) : Appends (encodeObject width object) ((itemOf object).bytes width) := by
  cases object with
  | null => exact appends_push _
  | boolean value => cases value <;> exact appends_push _
  | integer value => exact appends_encodeInteger h
  | data value => exact (appends_encodeLength _ _).seq (appends_append _)
  | string value =>
    rw [encodeObject, encodeString, itemOf]
    split
    · have hlength := appends_encodeLength 0x50 value.utf8ByteSize
      have hbytes := hlength.seq (appends_append value.toUTF8.data.toList)
      exact hbytes
    · exact (appends_encodeLength _ _).seq (appends_writeAll fun unit _ => appends_append _)
  | array references | dictionary keys values =>
    exact (appends_encodeLength _ _).seq (appends_writeAll fun r _ => appends_appendBe r hwidth)

/-! ### Text -/

lemma toUTF8_flatMap (text : String) :
    text.toUTF8.data.toList = text.toList.flatMap String.utf8EncodeChar := by
  have hencode : text.toByteArray = text.toList.utf8Encode := by
    rw [← String.toByteArray_ofList, String.ofList_toList]
  show text.toByteArray.data.toList = _
  rw [hencode, List.utf8Encode, List.data_toByteArray]

lemma isAsciiBytes_toUTF8 {text : String} (h : isAscii text = true) :
    isAsciiBytes text.toUTF8.data.toList = true := by
  rw [toUTF8_flatMap]
  refine List.all_eq_true.mpr fun byte hbyte => ?_
  obtain ⟨c, hc, hbyte⟩ := List.mem_flatMap.mp hbyte
  have hsmall : c.val.toNat < 128 :=
    UInt32.lt_iff_toNat_lt.mp (of_decide_eq_true (List.all_eq_true.mp h c hc))
  unfold String.utf8EncodeChar at hbyte
  rw [if_pos (by omega), List.mem_singleton] at hbyte
  rw [hbyte]
  refine decide_eq_true (UInt8.lt_iff_toNat_lt.mpr ?_)
  exact lt_of_le_of_lt (Nat.mod_le _ _) hsmall

lemma decodeText_toUTF8 (text : String) : decodeText text.toUTF8.data.toList = .ok text := by
  have hvalid : text.toUTF8.IsValidUTF8 := text.isValidUTF8
  have hread : String.fromUTF8? ⟨text.toUTF8.data.toList.toArray⟩ = some text := by
    exact dif_pos hvalid
  rw [decodeText, hread]

lemma char_not_surrogate (c : Char) :
    (c.val.toNat < 0xd800 ∨ 0xdfff < c.val.toNat) ∧ c.val.toNat < 0x110000 := by
  have hvalid : c.val.toNat < 0xd800 ∨ 0xdfff < c.val.toNat ∧ c.val.toNat < 0x110000 := c.valid
  omega

lemma utf16Units_lt {c : Char} {unit : ℕ} (h : unit ∈ utf16Units c) : unit < 65536 := by
  have hlt := (char_not_surrogate c).2
  unfold utf16Units at h
  split at h
  · rw [List.mem_singleton] at h
    omega
  · rw [List.mem_pair] at h
    omega

lemma decodeUtf16_units (c : Char) (units : List ℕ) :
    decodeUtf16 (utf16Units c ++ units) = (decodeUtf16 units).map (c :: ·) := by
  obtain ⟨hscalar, hlt⟩ := char_not_surrogate c
  have hchar : Char.ofNat c.val.toNat = c := Char.ofNat_toNat c
  unfold utf16Units
  split
  · rw [List.singleton_append, decodeUtf16.eq_def]
    dsimp only
    rw [if_pos hscalar, hchar]
  · have hjoin : 0x10000 + (0xd800 + (c.val.toNat - 0x10000) / 0x400 - 0xd800) * 0x400 +
        (0xdc00 + (c.val.toNat - 0x10000) % 0x400 - 0xdc00) = c.val.toNat := by omega
    rw [List.cons_append, List.singleton_append, decodeUtf16.eq_def]
    dsimp only
    rw [if_neg (by omega), if_neg (by omega), if_pos (by omega), hjoin, hchar]

lemma decodeUtf16_encodeUtf16 (text : String) :
    decodeUtf16 (encodeUtf16 text) = some text.toList := by
  unfold encodeUtf16
  induction text.toList with
  | nil => rfl
  | cons c cs ih => rw [flatMap_cons, decodeUtf16_units, ih, Option.map_some]

lemma textOf_encodeUtf16 (text : String) : textOf (encodeUtf16 text) = .ok text := by
  rw [textOf, decodeUtf16_encodeUtf16]
  dsimp only
  rw [String.ofList_toList]

/-! ### Objects that can be read back -/

/-- The references of an object are few, and a dictionary has a value for each key. -/
def EncodedObject.Fits : EncodedObject → Prop
  | .array references => references.length ≤ maxReferences
  | .dictionary keys values => keys.length = values.length ∧ keys.length * 2 ≤ maxReferences
  | _ => True

lemma wellFormed_itemOf (hrange : object.InRange) (hfits : object.Fits)
    (hlen : ((itemOf object).bytes width).length ≤ maxPlistSize) : (itemOf object).WellFormed := by
  have hmax : maxReferences ≤ maxPlistSize := by decide
  cases object with
  | null | boolean _ => trivial
  | integer value => exact integerFits_exponentOf hrange
  | data value =>
    simp only [itemOf, Item.bytes, Item.payload, length_cons, length_append] at hlen
    exact formOf_fits (by omega)
  | string value =>
    rw [itemOf] at hlen ⊢
    split at hlen
    · next hascii =>
      simp only [Item.bytes, Item.payload, length_cons, length_append] at hlen
      rw [if_pos hascii, ← length_toUTF8]
      exact ⟨formOf_fits (by omega), isAsciiBytes_toUTF8 hascii⟩
    next hwide =>
    have hunits : ((encodeUtf16 value).flatMap (beBytes 2)).length =
        (encodeUtf16 value).length * 2 := by simp
    simp only [Item.bytes, Item.payload, length_cons, length_append] at hlen
    rw [if_neg hwide]
    refine ⟨formOf_fits (by omega), fun unit hunit => ?_, ?_⟩
    · obtain ⟨c, -, hunit⟩ := List.mem_flatMap.mp hunit
      exact utf16Units_lt hunit
    · rw [decodeUtf16_encodeUtf16]
      exact Option.some_ne_none _
  | array references =>
    have hcount : references.length ≤ maxReferences := hfits
    exact ⟨formOf_fits (by omega), hcount⟩
  | dictionary keys values =>
    obtain ⟨hsame, hcount⟩ := hfits
    exact ⟨formOf_fits (by omega), hsame, hcount⟩

/-! ### Documents -/

/-- Where objects of these sizes begin when they are written side by side. -/
def placesFrom (width : ℕ) : ℕ → List Item → List ℕ
  | _, [] => []
  | start, item :: items => start :: placesFrom width (start + (item.bytes width).length) items

lemma encodeObjects_eq (hwidth : width = 1 ∨ width = 2 ∨ width = 4 ∨ width = 8)
    {objects : List EncodedObject} {output : Packet} (hrange : ∀ object ∈ objects, object.InRange)
    (hlen : output.length ≤ maxPlistSize) : encodeObjects width objects output =
      if output.length + ((objects.map itemOf).flatMap (Item.bytes width)).length ≤ maxPlistSize then
        .ok (placesFrom width output.length (objects.map itemOf),
          output ++ (objects.map itemOf).flatMap (Item.bytes width))
      else .error .outputTooLarge := by
  induction objects generalizing output with
  | nil =>
    rw [List.map_nil, List.flatMap_nil, List.append_nil, List.length_nil, Nat.add_zero, if_pos hlen]
    rfl
  | cons object objects ih =>
    have hobject := appends_encodeObject hwidth (hrange object List.mem_cons_self) output hlen
    rw [encodeObjects, hobject, List.map_cons, flatMap_cons, length_append]
    by_cases hfit : output.length + ((itemOf object).bytes width).length ≤ maxPlistSize
    · have hlen' : (output ++ (itemOf object).bytes width).length ≤ maxPlistSize := by
        rwa [length_append]
      have hrest := ih (fun o ho => hrange o (List.mem_cons_of_mem _ ho)) hlen'
      rw [length_append, append_assoc, Nat.add_assoc] at hrest
      rw [if_pos hfit]
      dsimp only
      rw [hrest]
      split_ifs <;> rfl
    · rw [if_neg hfit, if_neg (by omega)]

lemma appends_encodeTrailer (offsets : List ℕ) (trailer : Trailer)
    (h : trailer.offsetSize = integerStorageWidth trailer.offsetTableStart) :
    Appends (encodeTrailer offsets trailer.offsetTableStart trailer.referenceSize
      trailer.objectCount trailer.topObject)
      (offsets.flatMap (beBytes trailer.offsetSize) ++ trailer.bytes) := by
  have htable : Appends (writeAll (offsets.map fun offset =>
      appendBe offset (integerStorageWidth trailer.offsetTableStart)))
      (offsets.flatMap (beBytes (integerStorageWidth trailer.offsetTableStart))) :=
    appends_writeAll fun offset _ => appends_appendBe offset (integerStorageWidth_cases _)
  have eight : ∀ value, Appends (appendBe value 8) (beBytes 8 value) := fun value =>
    appends_appendBe value (by simp)
  have hall := htable.seq ((appends_append (List.replicate 6 0)).seq
    ((appends_push (UInt8.ofNat (integerStorageWidth trailer.offsetTableStart))).seq
      ((appends_push (UInt8.ofNat trailer.referenceSize)).seq
        ((eight trailer.objectCount).seq ((eight trailer.topObject).seq
          (eight trailer.offsetTableStart))))))
  unfold encodeTrailer
  simpa only [Trailer.bytes, h, append_assoc, List.cons_append, List.nil_append] using hall

variable {items : List Item}

lemma slices_sideBySide (before after : Packet) : List.Forall₂ (fun offset item =>
      slice offset (offset + (item.bytes width).length)
        (before ++ items.flatMap (Item.bytes width) ++ after) = item.bytes width)
      (placesFrom width before.length items) items := by
  induction items generalizing before with
  | nil => exact List.Forall₂.nil
  | cons item items ih =>
    have hrest := ih (before ++ item.bytes width)
    rw [length_append] at hrest
    rw [flatMap_cons]
    refine List.Forall₂.cons ?_ ?_
    · rw [← append_assoc, append_assoc _ _ after]
      exact slice_append _ _ _ _ _ rfl rfl
    · rwa [← append_assoc]

lemma contiguous_sideBySide (start : ℕ) : Contiguous start
      ((placesFrom width start items).zip (items.map fun item => (item.bytes width).length))
      (start + (items.flatMap (Item.bytes width)).length) := by
  induction items generalizing start with
  | nil => exact rfl
  | cons item items ih =>
    have hrest := ih (start + (item.bytes width).length)
    rw [flatMap_cons, length_append, ← Nat.add_assoc]
    exact ⟨rfl, Nat.succ_pos _, hrest⟩

lemma length_placesFrom (start : ℕ) : (placesFrom width start items).length = items.length := by
  induction items generalizing start with
  | nil => rfl
  | cons item items ih => rw [placesFrom, length_cons, length_cons, ih]

/-- Objects side by side, their table and the trailer are a document. -/
lemma written_sideBySide {trailer : Trailer} (hwidth : trailer.referenceSize = width)
    (hstart : trailer.offsetTableStart = header.length + (items.flatMap (Item.bytes width)).length)
    (hoffset : trailer.offsetSize = integerStorageWidth trailer.offsetTableStart)
    (hsmall : trailer.offsetTableStart < 2 ^ 64) (hreference : 1 ≤ width ∧ width ≤ 8)
    (hcount : items.length = trailer.objectCount) (htop : trailer.topObject < trailer.objectCount)
    (hitems : ∀ item ∈ items, item.WellFormed ∧ item.Refers width trailer.objectCount) :
    Written (header ++ items.flatMap (Item.bytes width) ++
      ((placesFrom width header.length items).flatMap (beBytes trailer.offsetSize) ++ trailer.bytes))
      trailer items (placesFrom width header.length items) := by
  subst hwidth
  have htable : ((placesFrom trailer.referenceSize header.length items).flatMap
      (beBytes trailer.offsetSize)).length = trailer.objectCount * trailer.offsetSize := by
    simp [length_placesFrom, hcount]
  have hbody : (header ++ items.flatMap (Item.bytes trailer.referenceSize)).length =
      trailer.offsetTableStart := by rw [length_append, hstart]
  have hcontiguous : Contiguous header.length (extents trailer items
      (placesFrom trailer.referenceSize header.length items)) trailer.offsetTableStart := by
    rw [hstart]
    exact contiguous_sideBySide header.length
  refine ⟨?_, hreference, hcount, htop, hitems, ?_, slices_sideBySide header _,
    ⟨_, List.Perm.refl _, hcontiguous⟩, fun offset hoff => ?_, ?_, ?_⟩
  · rcases integerStorageWidth_cases trailer.offsetTableStart with h | h | h | h <;>
      rw [hoffset, h] <;> decide
  · exact List.take_left
  · have hstarts : (extents trailer items
        (placesFrom trailer.referenceSize header.length items)).map Prod.fst =
        placesFrom trailer.referenceSize header.length items :=
      List.map_fst_zip (by rw [length_placesFrom, List.length_map])
    rw [← hstarts] at hoff
    obtain ⟨extent, hextent, rfl⟩ := List.mem_map.mp hoff
    have hend := (hcontiguous.bounds.2 _ hextent).2.2
    have hlt := lt_storageWidth hsmall
    rw [hoffset]
    omega
  · rw [← append_assoc]
    exact slice_append _ _ _ _ _ hbody (by rw [htable])
  · rw [← append_assoc]
    refine List.drop_left' ?_
    rw [length_append, hbody, htable]

end T1Bridge.Wire
