import T1Bridge.Import.Restore
import T1Bridge.Wire.PlistEncode

/-! # Personalised components

A component and the ticket that was signed for it go into one Image4 element, and a component of the
restore system gets the type that it has there. -/

namespace T1Bridge.Import.Signing

open Wire (beBytes beBytes_zeros fromBe fromBe_beBytes)
open Except (of_bind_ok of_ite_error_ok ok_bind)
open List (append_assoc append_nil drop_length_add_append length_append take_length_add_append)

def invalid : Error := "Apple signing response or Image4 component is invalid"

/-- The length of the content and where it starts. -/
def lengthAt (octet : UInt8) (rest : Packet) : Except Error (ℕ × ℕ) :=
  if octet < 128 then .ok (octet.toNat, 2)
  else
    let count := (octet &&& 127).toNat
    if count = 0 ∨ count > 4 ∨ rest.length < count ∨ rest.head? = some 0 then .error invalid
    else if fromBe (rest.take count) < 128 then .error invalid
    else .ok (fromBe (rest.take count), count + 2)

/-- Where the content of the first element starts and ends. -/
def element (bytes : Packet) (tag : UInt8) : Except Error (ℕ × ℕ) :=
  match bytes with
  | first :: octet :: rest =>
    if first ≠ tag then .error invalid
    else do
      let (length, start) ← lengthAt octet rest
      if start + length > bytes.length then .error invalid else .ok (start, start + length)
  | _ => .error invalid

def lengthOctets (length : ℕ) : Packet :=
  if length < 128 then [.ofNat length]
  else
    let octets := (beBytes 8 length).dropWhile (· = 0)
    (0x80 ||| .ofNat octets.length) :: octets

def wrap (tag : UInt8) (content : Packet) : Packet :=
  tag :: lengthOctets content.length ++ content

def replacement : String → Option Packet
  | "RestoreKernelCache" => some (ascii ['r', 'k', 'r', 'n'])
  | "RestoreDeviceTree" => some (ascii ['r', 'd', 't', 'r'])
  | "RestoreSEP" => some (ascii ['r', 's', 'e', 'p'])
  | _ => none

def im4p : Packet := ascii ['I', 'M', '4', 'P']
def img4 : Packet := ascii ['I', 'M', 'G', '4']

def personalize (name : String) (payload ticket : Packet) : Except Error Packet := do
  let (start, consumed) ← element payload 0x30
  if consumed ≠ payload.length then .error invalid
  else
    let (magicStart, magicEnd) ← element ((payload.take consumed).drop start) 0x16
    if (payload.take (start + magicEnd)).drop (start + magicStart) ≠ im4p then .error invalid
    else
      let offset := start + magicEnd
      let (tagStart, tagEnd) ← element (payload.drop offset) 0x16
      if tagEnd - tagStart ≠ 4 then .error invalid
      else
        let (_, consumed) ← element ticket 0x30
        if consumed ≠ ticket.length then .error invalid
        else
          let payload := match replacement name with
            | none => payload
            | some tag => payload.take (offset + tagStart) ++ tag ++ payload.drop (offset + tagEnd)
          .ok (wrap 0x30 (wrap 0x16 img4 ++ payload ++ wrap 0xa0 ticket))

/-! ### Headers -/

variable {octet tag : UInt8} {bytes octets header content rest : Packet} {length start stop : ℕ}

/-- After these bytes the reader takes any content of the length. -/
def Heads (header : Packet) (tag : UInt8) (length : ℕ) : Prop :=
  ∀ content rest, content.length = length →
    element (header ++ (content ++ rest)) tag = .ok (header.length, header.length + length)

lemma Heads.of_lengthAt (tag : UInt8)
    (h : ∀ tail, lengthAt octet (octets ++ tail) = .ok (length, octets.length + 2)) :
    Heads (tag :: octet :: octets) tag length := by
  rintro content rest rfl
  rw [List.cons_append, List.cons_append, element, if_neg (not_not.mpr rfl), ok_bind (h _)]
  refine if_neg ?_
  simp only [List.length_cons, length_append]
  omega

lemma lengthAt_long (hlong : ¬ octet < 128) (hcount : (octet &&& 127).toNat = octets.length)
    (hfour : octets.length ≤ 4) (hhead : octets.head? ≠ some 0) (hleast : ¬ fromBe octets < 128)
    (tail : Packet) : lengthAt octet (octets ++ tail) = .ok (fromBe octets, octets.length + 2) := by
  cases octets with
  | nil => exact absurd (by decide) hleast
  | cons b octets =>
    simp only [lengthAt, if_neg hlong, hcount, List.take_left, if_neg hleast]
    refine if_neg ?_
    simp only [length_append, List.length_cons] at hfour ⊢
    rintro (h | h | h | h)
    exacts [by omega, by omega, by omega, hhead h]

lemma lengthAt_ok (h : lengthAt octet rest = .ok (length, start)) :
    ∃ octets tail, rest = octets ++ tail ∧ start = octets.length + 2 ∧
      ∀ tail, lengthAt octet (octets ++ tail) = .ok (length, octets.length + 2) := by
  unfold lengthAt at h
  split_ifs at h with hshort
  · cases h
    exact ⟨[], rest, rfl, rfl, fun _ => if_pos hshort⟩
  · obtain ⟨hcount, h⟩ := of_ite_error_ok h
    obtain ⟨hleast, h⟩ := of_ite_error_ok h
    cases h
    simp only [not_or, not_lt] at hcount
    obtain ⟨hzero, hfour, hrest, hhead⟩ := hcount
    have hlength := List.length_take_of_le hrest
    refine ⟨_, _, (List.take_append_drop _ rest).symm, by rw [hlength], ?_⟩
    exact lengthAt_long hshort hlength.symm (hlength.le.trans hfour)
      (by rwa [List.head?_take, if_neg hzero]) hleast

lemma element_ok (h : element bytes tag = .ok (start, stop)) : ∃ header content rest,
    bytes = header ++ (content ++ rest) ∧ start = header.length ∧
      stop = header.length + content.length ∧ Heads header tag content.length := by
  unfold element at h
  split at h <;> try contradiction
  rename_i first octet rest
  obtain ⟨htag, h⟩ := of_ite_error_ok h
  obtain ⟨⟨length, start⟩, hlength, h⟩ := of_bind_ok h
  obtain ⟨hend, h⟩ := of_ite_error_ok h
  cases h
  obtain ⟨octets, tail, rfl, rfl, hoctets⟩ := lengthAt_ok hlength
  rw [not_not] at htag
  subst htag
  simp only [List.length_cons, length_append] at hend
  have hcontent : (tail.take length).length = length := List.length_take_of_le (by omega)
  refine ⟨first :: octet :: octets, tail.take length, tail.drop length, ?_, rfl, ?_, ?_⟩
  · rw [List.take_append_drop]
    rfl
  · rw [hcontent]
    rfl
  · rw [hcontent]
    exact Heads.of_lengthAt first hoctets

lemma fromBe_dropWhile (bytes : Packet) : fromBe (bytes.dropWhile (· = 0)) = fromBe bytes := by
  induction bytes with
  | nil => rfl
  | cons b bytes ih =>
    by_cases hb : b = 0
    · rw [List.dropWhile_cons_of_pos (by simpa using hb), ih, hb]
      simp [fromBe]
    · rw [List.dropWhile_cons_of_neg (by simpa using hb)]

/-- `wrap` writes a header, of a length that takes four octets at most. -/
lemma heads_lengthOctets (tag : UInt8) (h : length < 256 ^ 4) :
    Heads (tag :: lengthOctets length) tag length := by
  unfold lengthOctets
  split_ifs with hshort
  · refine Heads.of_lengthAt tag fun tail => ?_
    have hnat : (UInt8.ofNat length).toNat = length := Nat.mod_eq_of_lt (by omega)
    rw [lengthAt, if_pos (UInt8.lt_iff_toNat_lt.mpr (by rwa [hnat])), hnat]
    rfl
  · have hzeros : (beBytes 8 length).dropWhile (· = 0) = (beBytes 4 length).dropWhile (· = 0) := by
      rw [beBytes_zeros h 4, List.dropWhile_append_of_pos (by simp)]
    have hoctets := (fromBe_dropWhile (beBytes 4 length)).trans (fromBe_beBytes h)
    have hhead := List.head?_dropWhile_not (· = 0) (beBytes 4 length)
    have hfour := (List.dropWhile_sublist (l := beBytes 4 length) (· = 0)).length_le
    rw [hzeros]
    generalize (beBytes 4 length).dropWhile (· = 0) = octets at *
    subst hoctets
    rw [Wire.length_beBytes] at hfour
    have hcount : ¬ 0x80 ||| UInt8.ofNat octets.length < 128 ∧
        ((0x80 ||| UInt8.ofNat octets.length) &&& 127).toNat = octets.length := by
      interval_cases octets.length <;> decide
    refine Heads.of_lengthAt tag (lengthAt_long hcount.1 hcount.2 hfour ?_ hshort)
    intro hzero
    simp [hzero] at hhead

/-! ### Components -/

/-- The first element of the bytes has this tag and content, and the rest follows it. -/
def Reads (bytes : Packet) (tag : UInt8) (content rest : Packet) : Prop :=
  ∃ start stop, element bytes tag = .ok (start, stop) ∧
    (bytes.take stop).drop start = content ∧ bytes.drop stop = rest

lemma content_eq (header content rest : Packet) :
    ((header ++ (content ++ rest)).take (header.length + content.length)).drop header.length =
      content := by
  rw [take_length_add_append, List.drop_left, List.take_left]

lemma Heads.reads (h : Heads header tag content.length)
    (hbytes : bytes = header ++ (content ++ rest)) : Reads bytes tag content rest := by
  subst hbytes
  exact ⟨_, _, h content rest rfl, content_eq .., by rw [drop_length_add_append, List.drop_left]⟩

lemma reads_wrap (hbytes : bytes = wrap tag content ++ rest) (h : content.length < 256 ^ 4) :
    Reads bytes tag content rest :=
  (heads_lengthOctets tag h).reads (hbytes.trans (append_assoc ..))

/-- **The image holds the ticket and the component, of which at most the four bytes of the type are
others, and the reader takes it apart again.**  It reads back what `wrap` makes of any content below
4 GiB. -/
theorem personalised_image_reads_back :
    (∀ name payload ticket output, personalize name payload ticket = .ok output →
      output.length < 2 ^ 32 →
      -- the sequence, consumed to the end
      ∃ image signed body context, Reads output 0x30 image [] ∧
        Reads image 0x16 img4 (signed ++ context) ∧ Reads (signed ++ context) 0x30 body context ∧
        Reads context 0xa0 ticket [] ∧
      -- the component that was signed
      ∃ content before type rest after, payload = before ++ type ++ after ∧
        Reads payload 0x30 content [] ∧ Reads content 0x16 im4p rest ∧ Reads rest 0x16 type after ∧
        type.length = 4 ∧ ((replacement name).getD type).length = 4 ∧
        signed = before ++ (replacement name).getD type ++ after) ∧
    ∀ tag content rest, content.length < 2 ^ 32 →
      Reads (wrap tag content ++ rest) tag content rest := by
  refine ⟨?_, fun tag content rest => reads_wrap rfl⟩
  intro name payload ticket output h hlt
  obtain ⟨⟨start, consumed⟩, hbody, h⟩ := of_bind_ok h
  obtain ⟨hconsumed, h⟩ := of_ite_error_ok h
  obtain ⟨⟨magicStart, magicEnd⟩, hmagic, h⟩ := of_bind_ok h
  obtain ⟨hname, h⟩ := of_ite_error_ok h
  obtain ⟨⟨tagStart, tagEnd⟩, htype, h⟩ := of_bind_ok h
  obtain ⟨hfour, h⟩ := of_ite_error_ok h
  obtain ⟨⟨_, consumed⟩, hticket, h⟩ := of_bind_ok h
  obtain ⟨-, h⟩ := of_ite_error_ok h
  cases h
  -- offsets into the component are the lengths of what stands before
  obtain ⟨outer, body, rest, rfl, rfl, rfl, houter⟩ := element_ok hbody
  obtain rfl : rest = [] := by simpa using hconsumed
  rw [content_eq] at hmagic
  obtain ⟨inner, magic, rest, rfl, rfl, rfl, hinner⟩ := element_ok hmagic
  simp only [append_nil, Nat.add_assoc, take_length_add_append, drop_length_add_append,
    List.take_left, List.drop_left, not_not] at hname htype hlt ⊢
  subst hname
  obtain ⟨middle, type, after, rfl, rfl, rfl, hmiddle⟩ := element_ok htype
  replace hfour : type.length = 4 := by simpa using hfour
  have hnew : ((replacement name).getD type).length = 4 := by
    unfold replacement
    split
    exacts [rfl, rfl, rfl, hfour]
  have hsigned : (match replacement name with
      | none => outer ++ (inner ++ (im4p ++ (middle ++ (type ++ after))))
      | some tag => outer ++ (inner ++ (im4p ++ middle)) ++ tag ++ after) =
      outer ++ (inner ++ (im4p ++ (middle ++ ((replacement name).getD type ++ after)))) := by
    cases replacement name <;> simp
  simp only [drop_length_add_append, List.take_left, List.drop_left, hsigned] at hlt ⊢
  set new := (replacement name).getD type
  set body := inner ++ (im4p ++ (middle ++ (new ++ after))) with hbody
  have houter' : Heads outer 0x30 body.length := by
    simpa only [hbody, length_append, hnew, hfour] using houter
  have himage : (wrap 0x16 img4 ++ (outer ++ body) ++ wrap 0xa0 ticket).length < 256 ^ 4 :=
    (Nat.le_add_left _ _).trans_lt (by rwa [wrap, length_append] at hlt)
  have hticket : ticket.length < 256 ^ 4 := by
    simp only [wrap, length_append] at himage
    omega
  refine ⟨_, outer ++ body, body, wrap 0xa0 ticket, reads_wrap (append_nil _).symm himage,
    reads_wrap (append_assoc ..) (by decide), houter'.reads (append_assoc ..),
    reads_wrap (append_nil _).symm hticket, _, outer ++ inner ++ im4p ++ middle, type, _, after, ?_,
    houter.reads (by rw [append_nil]), hinner.reads rfl, hmiddle.reads rfl, hfour, hnew, ?_⟩
  · simp only [append_assoc]
  · simp only [hbody, append_assoc]
    rfl

def sepComponent (type : List Char) : Packet :=
  wrap 0x30 (wrap 0x16 im4p ++ wrap 0x16 (ascii type))

/-- The component of the secure processor, renamed for the restore. -/
theorem sep_image_reads_back :
    let output := wrap 0x30 (wrap 0x16 img4 ++ sepComponent ['r', 's', 'e', 'p'] ++ [0xa0, 2, 0x30, 0])
    personalize "RestoreSEP" (sepComponent ['s', 'e', 'p', 'i']) [0x30, 0] = .ok output ∧
      ∃ image signed body context, Reads output 0x30 image [] ∧
        Reads image 0x16 img4 (signed ++ context) ∧ Reads (signed ++ context) 0x30 body context ∧
        Reads context 0xa0 [0x30, 0] [] := by
  intro output
  have hpersonalize : personalize "RestoreSEP" (sepComponent ['s', 'e', 'p', 'i']) [0x30, 0] =
      .ok output := rfl
  obtain ⟨image, signed, body, context, houtput, himage, hsigned, hticket, -⟩ :=
    personalised_image_reads_back.1 _ _ _ _ hpersonalize (by decide)
  exact ⟨hpersonalize, image, signed, body, context, houtput, himage, hsigned, hticket⟩

/-- A length of five octets is written and not read. -/
theorem wrap_of_four_gib_is_refused :
    element (wrap 0x04 (List.replicate (2 ^ 32) 0)) 0x04 = .error invalid := by
  have hrefused : ∀ content : Packet, content.length = 2 ^ 32 →
      element (wrap 0x04 content) 0x04 = .error invalid := by
    intro content h
    have hoctets : lengthOctets (2 ^ 32) = [0x85, 1, 0, 0, 0, 0] := by decide
    rw [wrap, h, hoctets]
    rfl
  exact hrefused _ List.length_replicate

end T1Bridge.Import.Signing
