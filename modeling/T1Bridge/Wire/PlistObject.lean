import Mathlib.Tactic.IntervalCases
import Mathlib.Tactic.Linarith
import Mathlib.Tactic.Ring
import T1Bridge.Lib.Codec
import T1Bridge.Wire.PlistDecode

/-! # Objects as they are written

`Item` is an object together with how it is written: the width of an integer, the form of a length,
the form of a text.  `Item.bytes` writes it down, and scanning reads exactly these bytes back
(`scanObject_ok`).  Every reader is described by what it accepts. -/

namespace T1Bridge.Wire

open List (append_assoc append_nil cons_append flatMap_cons foldl_cons length_cons length_take)
open UInt8 (lt_iff_toNat_lt ofNat_toNat toNat_inj)
open Except (bind_eq_ok ite_error_eq_ok of_bind_ok of_ite_error_ok ok_bind)

/-! ### Big-endian words -/

@[simp] lemma length_beBytes (w n : ℕ) : (beBytes w n).length = w := by
  rw [beBytes, List.length_map, List.length_range]

lemma beBytes_succ (w n : ℕ) : beBytes (w + 1) n = UInt8.ofNat (n / 256 ^ w) :: beBytes w n := by
  unfold beBytes
  rw [List.range_succ_eq_map, List.map_cons, List.map_map]
  refine congrArg₂ List.cons rfl (List.map_congr_left fun i _ => ?_)
  have hexp : w + 1 - 1 - (i + 1) = w - 1 - i := by omega
  show UInt8.ofNat (n / 256 ^ (w + 1 - 1 - (i + 1))) = _
  rw [hexp]

lemma beBytes_eq (w n : ℕ) : beBytes w n = (leBytes w n).reverse := by
  induction w with
  | zero => rfl
  | succ w ih =>
    have hlast : ∀ w n, leBytes (w + 1) n = leBytes w n ++ [UInt8.ofNat (n / 256 ^ w)] := by
      intro w
      induction w with
      | zero => simp [leBytes]
      | succ w ih =>
        intro n
        rw [leBytes, ih, Nat.div_div_eq_div_mul, ← Nat.pow_succ']
        rfl
    rw [beBytes_succ, ih, hlast, List.reverse_append]
    rfl

lemma fromBe_eq (bytes : Packet) : fromBe bytes = fromLe bytes.reverse := by
  rw [fromBe, ← List.foldr_reverse]
  induction bytes.reverse with
  | nil => rfl
  | cons b bytes ih =>
    rw [List.foldr_cons, ih, fromLe]
    omega

lemma fromBe_lt (bytes : Packet) : fromBe bytes < 256 ^ bytes.length := by
  simpa [fromBe_eq] using fromLe_lt bytes.reverse

variable {w n length exponent width count : ℕ} {value : ℤ} {words : List ℕ}

section Words

variable {bytes : Packet}

lemma fromBe_beBytes (h : n < 256 ^ w) : fromBe (beBytes w n) = n := by
  rw [fromBe_eq, beBytes_eq, List.reverse_reverse, fromLe_leBytes h]

lemma beBytes_fromBe (bytes : Packet) : beBytes bytes.length (fromBe bytes) = bytes := by
  have h := leBytes_fromLe bytes.reverse
  rw [fromBe_eq, beBytes_eq, ← List.length_reverse, h, List.reverse_reverse]

lemma eq_beBytes_iff (hlen : bytes.length = w) (h : n < 256 ^ w) :
    bytes = beBytes w n ↔ fromBe bytes = n := by
  constructor
  · rintro rfl
    exact fromBe_beBytes h
  · rintro rfl
    rw [← hlen, beBytes_fromBe]

lemma readBe_ok (hlen : bytes.length = w) : readBe bytes = .ok n ↔
    (1 ≤ w ∧ w ≤ 8) ∧ n < 256 ^ w ∧ bytes = beBytes w n := by
  rw [readBe, ite_error_eq_ok, Except.ok.injEq, ← List.length_eq_zero_iff, hlen]
  refine and_congr (by omega) ⟨?_, fun h => (eq_beBytes_iff hlen h.1).mp h.2⟩
  rintro rfl
  have hlt := hlen ▸ fromBe_lt bytes
  exact ⟨hlt, (eq_beBytes_iff hlen hlt).mpr rfl⟩

end Words

/-! ### Markers -/

lemma marker_split (marker : UInt8) :
    marker = (marker &&& 0xf0) ||| (marker &&& 0x0f) ∧ marker &&& 0x0f < 16 := by
  have h : ∀ i : Fin 256, UInt8.ofNat i = (UInt8.ofNat i &&& 0xf0) ||| (UInt8.ofNat i &&& 0x0f) ∧
      UInt8.ofNat i &&& 0x0f < 16 := by decide +kernel
  have hm := h ⟨marker.toNat, marker.toNat_lt⟩
  rwa [ofNat_toNat] at hm

/-- The kinds of object whose marker carries four more bits. -/
def markerKinds : List UInt8 := [0x10, 0x40, 0x50, 0x60, 0xa0, 0xd0]

lemma marker_join (kind : UInt8) {low : UInt8} (hkind : kind ∈ markerKinds) (hlow : low < 16) :
    (kind ||| low) &&& 0xf0 = kind ∧ (kind ||| low) &&& 0x0f = low ∧ kind ||| low ≠ 0x00 ∧
      ¬ (kind ||| low = 0x08 ∨ kind ||| low = 0x09) := by
  have h : ∀ kind ∈ markerKinds, ∀ i : Fin 16,
      (kind ||| UInt8.ofNat i) &&& 0xf0 = kind ∧ (kind ||| UInt8.ofNat i) &&& 0x0f = UInt8.ofNat i ∧
        kind ||| UInt8.ofNat i ≠ 0x00 ∧
        ¬ (kind ||| UInt8.ofNat i = 0x08 ∨ kind ||| UInt8.ofNat i = 0x09) := by decide +kernel
  have hm := h kind hkind ⟨low.toNat, lt_iff_toNat_lt.mp hlow⟩
  rwa [ofNat_toNat] at hm

/-! ### Lengths -/

/-- How a length is written: in the marker, or as a word of `2 ^ exponent` bytes behind it. -/
inductive LengthForm where
  | inline
  | word (exponent : ℕ)

variable {form : LengthForm}

namespace LengthForm

/-- The low bits of the marker. -/
def low : LengthForm → ℕ → UInt8
  | inline, length => UInt8.ofNat length
  | word _, _ => 0x0f

/-- The bytes behind the marker. -/
def rest : LengthForm → ℕ → Packet
  | inline, _ => []
  | word exponent, length => (0x10 ||| UInt8.ofNat exponent) :: beBytes (2 ^ exponent) length

/-- The length can be written in this form. -/
def Fits : LengthForm → ℕ → Prop
  | inline, length => length < 15
  | word exponent, length =>
    exponent ≤ 3 ∧ length < 256 ^ 2 ^ exponent ∧ length ≤ max maxReferences maxPlistSize

lemma low_lt (h : form.Fits length) : form.low length < 16 := by
  cases form with
  | inline =>
    have hlt : length < 15 := h
    show length % 2 ^ 8 < 16
    omega
  | word exponent => exact (by decide : (0x0f : UInt8) < 16)

end LengthForm

section Readers

variable {bytes rest tail : Packet} {low : UInt8}

lemma readByte_ok {byte : UInt8} : readByte bytes = .ok (byte, rest) ↔ bytes = byte :: rest := by
  cases bytes <;> simp [readByte]

lemma take_ok : take length rest = .ok (bytes, tail) ↔
      bytes.length = length ∧ rest = bytes ++ tail := Codec.take_ok

lemma take_all (h : bytes.length = length) : take length bytes = .ok (bytes, []) :=
  take_ok.mpr ⟨h, (append_nil _).symm⟩

lemma integerWidth_ok : integerWidth low = .ok width ↔
    ∃ exponent, exponent ≤ 4 ∧ low = UInt8.ofNat exponent ∧ width = 2 ^ exponent := by
  unfold integerWidth
  constructor
  · intro h
    split at h <;> cases h
    next hle => exact ⟨low.toNat, UInt8.le_iff_toNat_le.mp hle, ofNat_toNat.symm, rfl⟩
  · rintro ⟨exponent, hexp, rfl, rfl⟩
    interval_cases exponent <;> rfl

lemma ofNat_lt_sixteen (h : n ≤ 4) : UInt8.ofNat n < 16 := by
  interval_cases n <;> decide

lemma readLength_ok (hlow : low < 16) : readLength low rest = .ok (length, tail) ↔
    ∃ form : LengthForm, form.Fits length ∧ low = form.low length ∧
      rest = form.rest length ++ tail := by
  unfold readLength
  constructor
  · intro h
    split at h
    next hsmall =>
      cases h
      exact ⟨.inline, lt_iff_toNat_lt.mp hsmall, ofNat_toNat.symm, rfl⟩
    next hlarge =>
      have hfull : low = 0x0f := by
        rw [lt_iff_toNat_lt] at hlow hlarge
        exact toNat_inj.mp (show low.toNat = 15 by simp at hlow hlarge; omega)
      simp only [bind_eq_ok, Prod.exists, readByte_ok, ite_error_eq_ok, integerWidth_ok, take_ok,
        not_not] at h
      obtain ⟨marker, _, rfl, hhigh, _, ⟨exponent, hexp, hlow, rfl⟩, hnarrow, bytes, _, ⟨hlen, rfl⟩,
        n, hn, hmax, ⟨⟩⟩ := h
      obtain ⟨-, hword, rfl⟩ := (readBe_ok hlen).mp hn
      have hthree : exponent ≤ 3 := by interval_cases exponent <;> omega
      refine ⟨.word exponent, ⟨hthree, hword, by omega⟩, hfull, ?_⟩
      rw [(marker_split marker).1, hhigh, hlow]
      rfl
  · rintro ⟨_ | exponent, hfits, rfl, rfl⟩
    · have hlt : length < 15 := hfits
      have hbyte : (UInt8.ofNat length).toNat = length := Nat.mod_eq_of_lt (by omega)
      rw [LengthForm.low, if_pos (lt_iff_toNat_lt.mpr (hbyte.symm ▸ hlt)), hbyte]
    · obtain ⟨hexp, hword, hmax⟩ := hfits
      obtain ⟨hhigh, hlow, -⟩ := marker_join 0x10 (by decide)
        (ofNat_lt_sixteen (by omega : exponent ≤ 4))
      have hwidth : 1 ≤ 2 ^ exponent ∧ 2 ^ exponent ≤ 8 := by interval_cases exponent <;> decide
      rw [LengthForm.low, if_neg (by decide)]
      simp only [bind_eq_ok, Prod.exists, readByte_ok, ite_error_eq_ok, integerWidth_ok, take_ok,
        not_not]
      exact ⟨_, _, rfl, hhigh, _, ⟨exponent, by omega, hlow, rfl⟩, by omega, _, _,
        ⟨length_beBytes _ _, rfl⟩, _, (readBe_ok (length_beBytes _ _)).mpr ⟨hwidth, hword, rfl⟩,
        by omega, rfl⟩

lemma readLength_rest (h : form.Fits length) (tail : Packet) :
    readLength (form.low length) (form.rest length ++ tail) = .ok (length, tail) :=
  (readLength_ok (LengthForm.low_lt h)).mpr ⟨form, h, rfl, rfl⟩

/-! ### Words of one width -/

lemma readWords_ok {accepts : ℕ → Bool} (hwidth : 1 ≤ width ∧ width ≤ 8)
    (hlen : count * width ≤ bytes.length) : readWords width accepts count bytes = .ok words ↔
      words.length = count ∧ bytes.take (count * width) = words.flatMap (beBytes width) ∧
        ∀ word ∈ words, accepts word = true ∧ word < 256 ^ width := by
  induction count generalizing bytes words with
  | zero =>
    rw [readWords, Except.ok.injEq, List.length_eq_zero_iff]
    constructor <;> rintro ⟨rfl, -⟩ <;> simp
  | succ count ih =>
    rw [Nat.succ_mul] at hlen
    have hfirst : (bytes.take width).length = width := List.length_take_of_le (by omega)
    have hrest : count * width ≤ (bytes.drop width).length := by
      rw [List.length_drop]
      omega
    simp only [readWords, bind_eq_ok, ite_error_eq_ok, readBe_ok hfirst, ih hrest, Except.ok.injEq]
    rw [Nat.succ_mul, Nat.add_comm (count * width), List.take_add]
    constructor
    · rintro ⟨word, ⟨-, hword, hbytes⟩, haccepts, words, ⟨rfl, hrest, hall⟩, rfl⟩
      refine ⟨rfl, ?_, List.forall_mem_cons.mpr ⟨⟨by simpa using haccepts, hword⟩, hall⟩⟩
      rw [hbytes, hrest, flatMap_cons]
    · rintro ⟨hcount, hbytes, hall⟩
      obtain ⟨word, words, rfl⟩ := List.exists_cons_of_length_eq_add_one hcount
      obtain ⟨hword, hwords⟩ := List.append_inj hbytes (hfirst.trans (length_beBytes _ _).symm)
      obtain ⟨⟨haccepts, hlt⟩, hall⟩ := List.forall_mem_cons.mp hall
      exact ⟨word, ⟨hwidth, hlt, hword⟩, by simp [haccepts], words,
        ⟨Nat.succ.inj hcount, hwords, hall⟩, rfl⟩

lemma readWords_two (hlen : bytes.length = count * 2) :
    readWords 2 (fun _ => true) count bytes = .ok (utf16Pairs bytes) := by
  induction count generalizing bytes with
  | zero =>
    cases List.length_eq_zero_iff.mp (hlen.trans (Nat.zero_mul _))
    rfl
  | succ count ih =>
    match bytes, hlen with
    | high :: low :: rest, hlen =>
      have hrest : rest.length = count * 2 := by
        simp at hlen
        omega
      refine (ok_bind (a := high.toNat * 256 + low.toNat) ?_ _).trans (ok_bind (ih hrest) _)
      simp [readBe, fromBe]
    | [_], hlen =>
      simp at hlen
      omega

lemma utf16Pairs_eq_iff {units : List ℕ} (hlen : bytes.length = count * 2) :
    utf16Pairs bytes = units ↔ units.length = count ∧ bytes = units.flatMap (beBytes 2) ∧
      ∀ unit ∈ units, unit < 65536 := by
  rw [← Except.ok.injEq, ← readWords_two hlen, readWords_ok (by decide) (le_of_eq hlen.symm),
    ← hlen,
    List.take_length]
  simp

end Readers

/-! ### Integers -/

/-- What a word of `2 ^ exponent` bytes can say. -/
def IntegerFits : ℕ → ℤ → Prop
  | 0, value => 0 ≤ value ∧ value < 2 ^ 8
  | 1, value => 0 ≤ value ∧ value < 2 ^ 16
  | 2, value => 0 ≤ value ∧ value < 2 ^ 32
  | 3, value => -2 ^ 63 ≤ value ∧ value < 2 ^ 63
  | 4, value => inWireRange value = true
  | _, _ => False

def integerBytes (exponent : ℕ) (value : ℤ) : Packet :=
  beBytes (2 ^ exponent) (value % (256 ^ 2 ^ exponent : ℕ)).toNat

@[simp] lemma length_integerBytes (exponent : ℕ) (value : ℤ) :
    (integerBytes exponent value).length = 2 ^ exponent := length_beBytes _ _

lemma inWireRange_iff : inWireRange value = true ↔ -2 ^ 63 ≤ value ∧ value ≤ 2 ^ 64 - 1 := by
  simp [inWireRange]

lemma IntegerFits.exponent_le (h : IntegerFits exponent value) : exponent ≤ 4 := by
  match exponent, h with
  | 0, _ | 1, _ | 2, _ | 3, _ | 4, _ => decide

lemma decodeInteger_ok {bytes : Packet} (hexp : exponent ≤ 4) (hlen : bytes.length = 2 ^ exponent) :
    decodeInteger bytes = .ok value ↔
      IntegerFits exponent value ∧ bytes = integerBytes exponent value := by
  have hlt := fromBe_lt bytes
  have hmod : (value % (256 ^ 2 ^ exponent : ℕ)).toNat < 256 ^ 2 ^ exponent := by
    have hpos : 0 < 256 ^ 2 ^ exponent := Nat.pow_pos (by decide)
    have h := Int.emod_lt_of_pos value (Int.natCast_pos.mpr hpos)
    omega
  rw [integerBytes, eq_beBytes_iff hlen hmod]
  unfold decodeInteger
  rw [hlen] at hlt ⊢
  generalize fromBe bytes = n at *
  match exponent, hexp with
  | 0, _ | 1, _ | 2, _ | 3, _ =>
    norm_num [IntegerFits, signed] at hlt ⊢
    omega
  | 4, _ =>
    change (if inWireRange (signed 16 n) = true then _ else _) = _ ↔ inWireRange value = true ∧ _
    simp only [inWireRange_iff]
    norm_num [signed] at hlt ⊢
    split_ifs <;> simp <;> omega

/-! ### Objects -/

/-- An object as it is written. -/
inductive Item where
  | null
  | boolean (value : Bool)
  | integer (exponent : ℕ) (value : ℤ)
  | data (form : LengthForm) (value : Packet)
  | ascii (form : LengthForm) (text : Packet)
  | utf16 (form : LengthForm) (units : List ℕ)
  | array (form : LengthForm) (references : List ℕ)
  | dictionary (form : LengthForm) (keys values : List ℕ)

variable {item : Item}

namespace Item

def marker : Item → UInt8
  | null => 0x00
  | boolean value => if value then 0x09 else 0x08
  | integer exponent _ => 0x10 ||| UInt8.ofNat exponent
  | data form value => 0x40 ||| form.low value.length
  | ascii form text => 0x50 ||| form.low text.length
  | utf16 form units => 0x60 ||| form.low units.length
  | array form references => 0xa0 ||| form.low references.length
  | dictionary form keys _ => 0xd0 ||| form.low keys.length

/-- What stands behind the marker when references have `width` bytes. -/
def payload (width : ℕ) : Item → Packet
  | null | boolean _ => []
  | integer exponent value => integerBytes exponent value
  | data form value => form.rest value.length ++ value
  | ascii form text => form.rest text.length ++ text
  | utf16 form units => form.rest units.length ++ units.flatMap (beBytes 2)
  | array form references => form.rest references.length ++ references.flatMap (beBytes width)
  | dictionary form keys values =>
    form.rest keys.length ++ (keys ++ values).flatMap (beBytes width)

def bytes (width : ℕ) (item : Item) : Packet := item.marker :: item.payload width

def children : Item → List ℕ
  | array _ references => references
  | dictionary _ keys values => keys ++ values
  | _ => []

def kind : Item → ObjectKind
  | null => .null
  | boolean _ => .boolean
  | integer _ _ => .integer
  | data _ _ => .data
  | ascii _ _ | utf16 _ _ => .string
  | array _ _ => .array
  | dictionary _ _ _ => .dictionary

def keyCount : Item → ℕ
  | dictionary _ keys _ => keys.length
  | _ => 0

/-- What the scan says about the object. -/
def scanned (item : Item) : ScannedObject := ⟨item.kind, item.children, item.keyCount⟩

/-- The object can be written that way. -/
def WellFormed : Item → Prop
  | null | boolean _ => True
  | integer exponent value => IntegerFits exponent value
  | data form value => form.Fits value.length
  | ascii form text => form.Fits text.length ∧ isAsciiBytes text = true
  | utf16 form units =>
    form.Fits units.length ∧ (∀ unit ∈ units, unit < 65536) ∧ decodeUtf16 units ≠ none
  | array form references => form.Fits references.length ∧ references.length ≤ maxReferences
  | dictionary form keys values =>
    form.Fits keys.length ∧ keys.length = values.length ∧ keys.length * 2 ≤ maxReferences

/-- Every reference names one of `count` objects and fits into `width` bytes. -/
def Refers (width count : ℕ) (item : Item) : Prop :=
  ∀ reference ∈ item.children, reference < count ∧ reference < 256 ^ width

end Item

section Scan

lemma readReferences_ok (hwidth : 1 ≤ width ∧ width ≤ 8) {rest tail : Packet} {references : List ℕ} :
    readReferences n width count rest = .ok (references, tail) ↔ n ≤ maxReferences ∧
      references.length = n ∧ rest = references.flatMap (beBytes width) ++ tail ∧
      ∀ reference ∈ references, reference < count ∧ reference < 256 ^ width := by
  simp only [readReferences, ite_error_eq_ok, bind_eq_ok, Prod.exists, take_ok, Except.ok.injEq,
    Prod.mk.injEq, not_lt]
  refine and_congr_right fun hn => ⟨?_, ?_⟩
  · rintro ⟨bytes, _, ⟨hlen, rfl⟩, _, hwords, rfl, rfl⟩
    obtain ⟨hcount, hbytes, hall⟩ := (readWords_ok hwidth (le_of_eq hlen.symm)).mp hwords
    rw [← hlen, List.take_length] at hbytes
    simpa [hcount, hbytes] using hall
  · rintro ⟨rfl, rfl, hall⟩
    have hlen : (references.flatMap (beBytes width)).length = references.length * width := by simp
    refine ⟨_, _, ⟨hlen, rfl⟩, _, (readWords_ok hwidth (le_of_eq hlen.symm)).mpr ?_, rfl, rfl⟩
    rw [← hlen, List.take_length]
    simpa using hall

/-- The branch that the high bits of a marker select. -/
lemma scanPayload_kind (kind : UInt8) {low : UInt8} (hkind : kind ∈ markerKinds) (hlow : low < 16)
    (rest : Packet) :
    scanPayload width count (kind ||| low) rest = if kind = 0x10 then scanInteger low rest
      else if kind = 0x40 then scanData low rest else if kind = 0x50 then scanAscii low rest
      else if kind = 0x60 then scanUtf16 low rest
      else if kind = 0xa0 then scanArray width count low rest
      else if kind = 0xd0 then scanDictionary width count low rest else .error .unsupported := by
  obtain ⟨hhigh, hmarker, hzero, hboolean⟩ := marker_join kind hkind hlow
  rw [scanPayload, if_neg hzero, if_neg hboolean, hhigh, hmarker]

lemma scanPayload_payload (hwidth : 1 ≤ width ∧ width ≤ 8) (hwf : item.WellFormed)
    (hrefers : item.Refers width count) :
    scanPayload width count item.marker (item.payload width) = .ok (item.scanned, []) := by
  cases item with
  | null => rfl
  | boolean value => cases value <;> rfl
  | integer exponent value =>
    have hexp : exponent ≤ 4 := IntegerFits.exponent_le hwf
    rw [Item.marker, Item.payload, scanPayload_kind _ (by decide) (ofNat_lt_sixteen hexp),
      scanInteger, ok_bind (integerWidth_ok.mpr ⟨_, hexp, rfl, rfl⟩),
      ok_bind (take_all (length_integerBytes _ _))]
    dsimp only
    rw [ok_bind ((decodeInteger_ok hexp (length_integerBytes _ _)).mpr ⟨hwf, rfl⟩)]
    rfl
  | data form value =>
    rw [Item.marker, Item.payload, scanPayload_kind _ (by decide) (LengthForm.low_lt hwf), scanData,
      ok_bind (readLength_rest hwf value)]
    dsimp only
    rw [ok_bind (take_all rfl)]
    rfl
  | ascii form text =>
    obtain ⟨hfits, hascii⟩ := hwf
    rw [Item.marker, Item.payload, scanPayload_kind _ (by decide) (LengthForm.low_lt hfits),
      scanAscii, ok_bind (readLength_rest hfits text)]
    dsimp only
    rw [ok_bind (take_all rfl)]
    rw [hascii]
    rfl
  | utf16 form units =>
    obtain ⟨hfits, hunits, htext⟩ := hwf
    have hlength : (units.flatMap (beBytes 2)).length = units.length * 2 := by
      simp
    rw [Item.marker, Item.payload, scanPayload_kind _ (by decide) (LengthForm.low_lt hfits),
      scanUtf16, ok_bind (readLength_rest hfits _)]
    dsimp only
    rw [ok_bind (take_all hlength)]
    rw [(utf16Pairs_eq_iff hlength).mpr ⟨rfl, rfl, hunits⟩, if_neg htext]
    rfl
  | array form references =>
    obtain ⟨hfits, hcount⟩ := hwf
    rw [Item.marker, Item.payload, scanPayload_kind _ (by decide) (LengthForm.low_lt hfits),
      scanArray, ok_bind (readLength_rest hfits _)]
    dsimp only
    rw [ok_bind ((readReferences_ok hwidth).mpr ⟨hcount, rfl, (append_nil _).symm, hrefers⟩)]
    rfl
  | dictionary form keys values =>
    obtain ⟨hfits, hsame, hcount⟩ := hwf
    have hread : readReferences (keys.length * 2) width count
        ((keys ++ values).flatMap (beBytes width)) = .ok (keys ++ values, []) :=
      (readReferences_ok hwidth).mpr ⟨hcount, by rw [List.length_append]; omega,
        (append_nil _).symm, hrefers⟩
    rw [Item.marker, Item.payload, scanPayload_kind _ (by decide) (LengthForm.low_lt hfits),
      scanDictionary, ok_bind (readLength_rest hfits _)]
    dsimp only
    rw [ok_bind hread]
    rfl

/-- What a scan found is written in its bytes. -/
def Found (width count : ℕ) (marker : UInt8) (rest : Packet) (r : ScannedObject × Packet) : Prop :=
  ∃ item : Item, item.WellFormed ∧ item.Refers width count ∧ marker = item.marker ∧
    rest = item.payload width ++ r.2 ∧ r.1 = item.scanned

lemma marker_eq {marker kind low : UInt8} (hhigh : marker &&& 0xf0 = kind)
    (hlow : marker &&& 0x0f = low) : marker = kind ||| low := by
  rw [← hhigh, ← hlow]
  exact (marker_split marker).1

variable {r : ScannedObject × Packet} {marker : UInt8} {rest : Packet}

lemma found_integer (hhigh : marker &&& 0xf0 = 0x10)
    (h : scanInteger (marker &&& 0x0f) rest = .ok r) : Found width count marker rest r := by
  simp only [scanInteger, bind_eq_ok, Prod.exists, integerWidth_ok, take_ok] at h
  obtain ⟨_, ⟨exponent, hexp, hlow, rfl⟩, _, _, ⟨hlen, rfl⟩, value, hvalue, ⟨⟩⟩ := h
  obtain ⟨hfits, rfl⟩ := (decodeInteger_ok hexp hlen).mp hvalue
  exact ⟨.integer exponent value, hfits, nofun, marker_eq hhigh hlow, rfl, rfl⟩

lemma found_data (hhigh : marker &&& 0xf0 = 0x40)
    (h : scanData (marker &&& 0x0f) rest = .ok r) : Found width count marker rest r := by
  simp only [scanData, bind_eq_ok, Prod.exists, readLength_ok (marker_split marker).2, take_ok] at h
  obtain ⟨_, _, ⟨form, hfits, hlow, rfl⟩, value, _, ⟨rfl, rfl⟩, ⟨⟩⟩ := h
  exact ⟨.data form value, hfits, nofun, marker_eq hhigh hlow, (append_assoc ..).symm, rfl⟩

lemma found_ascii (hhigh : marker &&& 0xf0 = 0x50)
    (h : scanAscii (marker &&& 0x0f) rest = .ok r) : Found width count marker rest r := by
  simp only [scanAscii, bind_eq_ok, Prod.exists, readLength_ok (marker_split marker).2, take_ok,
    ite_error_eq_ok, Bool.not_eq_false] at h
  obtain ⟨_, _, ⟨form, hfits, hlow, rfl⟩, text, _, ⟨rfl, rfl⟩, hascii, ⟨⟩⟩ := h
  exact ⟨.ascii form text, ⟨hfits, hascii⟩, nofun, marker_eq hhigh hlow, (append_assoc ..).symm, rfl⟩

lemma found_utf16 (hhigh : marker &&& 0xf0 = 0x60)
    (h : scanUtf16 (marker &&& 0x0f) rest = .ok r) : Found width count marker rest r := by
  simp only [scanUtf16, bind_eq_ok, Prod.exists, readLength_ok (marker_split marker).2, take_ok,
    ite_error_eq_ok] at h
  obtain ⟨_, _, ⟨form, hfits, hlow, rfl⟩, bytes, _, ⟨hlen, rfl⟩, htext, ⟨⟩⟩ := h
  obtain ⟨rfl, hbytes, hunits⟩ := (utf16Pairs_eq_iff hlen).mp rfl
  refine ⟨.utf16 form (utf16Pairs bytes), ⟨hfits, hunits, htext⟩, nofun, marker_eq hhigh hlow, ?_, rfl⟩
  rw [Item.payload, append_assoc, ← hbytes]

variable (hwidth : 1 ≤ width ∧ width ≤ 8)

include hwidth

lemma found_array (hhigh : marker &&& 0xf0 = 0xa0)
    (h : scanArray width count (marker &&& 0x0f) rest = .ok r) : Found width count marker rest r := by
  simp only [scanArray, bind_eq_ok, Prod.exists, readLength_ok (marker_split marker).2,
    readReferences_ok hwidth] at h
  obtain ⟨_, _, ⟨form, hfits, hlow, rfl⟩, references, _, ⟨hmax, rfl, rfl, hrefers⟩, ⟨⟩⟩ := h
  exact ⟨.array form references, ⟨hfits, hmax⟩, hrefers, marker_eq hhigh hlow,
    (append_assoc ..).symm, rfl⟩

lemma found_dictionary (hhigh : marker &&& 0xf0 = 0xd0)
    (h : scanDictionary width count (marker &&& 0x0f) rest = .ok r) :
    Found width count marker rest r := by
  simp only [scanDictionary, bind_eq_ok, Prod.exists, readLength_ok (marker_split marker).2,
    readReferences_ok hwidth] at h
  obtain ⟨n, _, ⟨form, hfits, hlow, rfl⟩, references, _, ⟨hmax, hlen, rfl, hrefers⟩, ⟨⟩⟩ := h
  obtain ⟨keys, values, rfl, rfl⟩ : ∃ keys values, references = keys ++ values ∧ keys.length = n :=
    ⟨_, _, (List.take_append_drop n _).symm, List.length_take_of_le (by omega)⟩
  rw [List.length_append] at hlen
  exact ⟨.dictionary form keys values, ⟨hfits, by omega, hmax⟩, hrefers, marker_eq hhigh hlow,
    (append_assoc ..).symm, rfl⟩

lemma scanPayload_inv (h : scanPayload width count marker rest = .ok r) :
    Found width count marker rest r := by
  unfold scanPayload at h
  split_ifs at h with hzero hboolean hhigh hhigh hhigh hhigh hhigh hhigh
  · cases h
    exact ⟨.null, trivial, nofun, hzero, rfl, rfl⟩
  · cases h
    rcases hboolean with rfl | rfl
    · exact ⟨.boolean false, trivial, nofun, rfl, rfl, rfl⟩
    · exact ⟨.boolean true, trivial, nofun, rfl, rfl, rfl⟩
  exacts [found_integer hhigh h, found_data hhigh h, found_ascii hhigh h, found_utf16 hhigh h,
    found_array hwidth hhigh h, found_dictionary hwidth hhigh h]

/-- Accepted is what is one object, written well, to the last byte. -/
lemma scanObject_ok {bytes : Packet} {object : ScannedObject} :
    scanObject bytes width count = .ok object ↔ ∃ item : Item, item.WellFormed ∧
      item.Refers width count ∧ bytes = item.bytes width ∧ object = item.scanned := by
  simp only [scanObject, bind_eq_ok, Prod.exists, readByte_ok, ite_error_eq_ok, not_not]
  constructor
  · rintro ⟨_, _, rfl, _, _, hscan, rfl, ⟨⟩⟩
    obtain ⟨item, hwf, hrefers, rfl, hrest, hobject⟩ := scanPayload_inv hwidth hscan
    exact ⟨item, hwf, hrefers, congrArg _ (hrest.trans (append_nil _)), hobject⟩
  · rintro ⟨item, hwf, hrefers, rfl, rfl⟩
    exact ⟨_, _, rfl, _, _, scanPayload_payload hwidth hwf hrefers, rfl, rfl⟩

end Scan

/-! ### Decoding an object -/

/-- The text of an object. -/
def textOf (units : List ℕ) : Except PlistError String :=
  match decodeUtf16 units with
  | some text => .ok (String.ofList text)
  | none => .error .malformed

/-- The value of an object, with `f` for the objects below it. -/
def Item.decode (f : ℕ → Decoding Value) : Item → Decoding Value
  | .null, budget => .ok (.null, budget)
  | .boolean value, budget => .ok (.boolean value, budget)
  | .integer _ value, budget => .ok (.integer value, budget)
  | .data _ value, budget => do
    let budget ← budget.chargeBytes value.length
    .ok (.data value, budget)
  | .ascii _ text, budget => do
    let budget ← budget.chargeBytes text.length
    let text ← decodeText text
    .ok (.string text, budget)
  | .utf16 _ units, budget => do
    let budget ← budget.chargeBytes (units.length * 2)
    let text ← textOf units
    .ok (.string text, budget)
  | .array _ references, budget => do
    let (values, budget) ← decodeChildren f references budget
    .ok (.array values, budget)
  | .dictionary _ keys values, budget => do
    let (entries, budget) ← decodeEntries f (keys.zip values) [] budget
    .ok (.dictionary entries, budget)

lemma decodePayload_item (hwf : item.WellFormed) (f : ℕ → Decoding Value) (budget : DecodeBudget) :
    decodePayload f item.scanned item.marker (item.payload width) budget = item.decode f budget := by
  cases item with
  | null => rfl
  | boolean value => cases value <;> rfl
  | integer exponent value =>
    have hexp : exponent ≤ 4 := IntegerFits.exponent_le hwf
    have hlow := (marker_join 0x10 (by decide) (ofNat_lt_sixteen hexp)).2.1
    rw [decodePayload, Item.marker, Item.payload]
    dsimp only
    rw [hlow, ok_bind (integerWidth_ok.mpr ⟨_, hexp, rfl, rfl⟩),
      ok_bind (take_all (length_integerBytes _ _))]
    rw [ok_bind ((decodeInteger_ok hexp (length_integerBytes _ _)).mpr ⟨hwf, rfl⟩)]
    rfl
  | data form value =>
    have hlow := (marker_join 0x40 (by decide) (LengthForm.low_lt hwf)).2.1
    rw [decodePayload, Item.marker, Item.payload]
    dsimp only
    rw [hlow, ok_bind (readLength_rest hwf value)]
    rw [take_all rfl]
    rfl
  | ascii form text =>
    obtain ⟨hfits, -⟩ := hwf
    obtain ⟨hhigh, hlow, -⟩ := marker_join 0x50 (by decide) (LengthForm.low_lt hfits)
    rw [decodePayload, Item.scanned, Item.kind, Item.marker, Item.payload]
    dsimp only
    rw [hlow, if_pos hhigh, ok_bind (readLength_rest hfits text)]
    rw [take_all rfl]
    rfl
  | utf16 form units =>
    obtain ⟨hfits, hunits, -⟩ := hwf
    obtain ⟨hhigh, hlow, -⟩ := marker_join 0x60 (by decide) (LengthForm.low_lt hfits)
    have hlength : (units.flatMap (beBytes 2)).length = units.length * 2 := by
      simp
    have htext : decodeUnits (units.flatMap (beBytes 2)) = textOf units := by
      rw [decodeUnits, (utf16Pairs_eq_iff hlength).mpr ⟨rfl, rfl, hunits⟩]
      rfl
    rw [decodePayload, Item.scanned, Item.kind, Item.marker, Item.payload]
    dsimp only
    rw [hlow, hhigh, if_neg (by decide), ok_bind (readLength_rest hfits _)]
    rw [take_all hlength]
    show (budget.chargeBytes (units.length * 2) >>= fun budget =>
      decodeUnits (units.flatMap (beBytes 2)) >>= fun text => .ok (Value.string text, budget)) = _
    rw [htext]
    rfl
  | array form references => rfl
  | dictionary form keys values =>
    rw [decodePayload, Item.scanned, Item.children, Item.keyCount]
    rw [List.take_left, List.drop_left]
    rfl

end T1Bridge.Wire
