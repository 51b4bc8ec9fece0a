import T1Bridge.Auth.Protocol
import Mathlib.Data.Nat.Digits.Lemmas

/-! # Names in the store directory

Everything a transaction creates carries its token: the stage `.stage-<token>`, the generation
`pair-<token>`, the reservation `.recovery-<token>` and the temporary marker
`.active-<token>.tmp`.  File names are bytes; the store refuses a name that is not UTF-8. -/

namespace T1Bridge.Store

abbrev Name := List UInt8

def activeMarker : Name := ascii ['a', 'c', 't', 'i', 'v', 'e']
def masterFile : Name := ascii ['m', 'a', 's', 't', 'e', 'r', '.', 'r', 'a', 'w']
def userFile : Name := ascii ['u', 's', 'e', 'r', '.', 'r', 'a', 'w']
def identityMetadataFile : Name :=
  ascii ['i', 'd', 'e', 'n', 't', 'i', 't', 'i', 'e', 's', '.', 'm', 'e', 't', 'a']

def pairDash : Name := ascii ['p', 'a', 'i', 'r', '-']
def stageDash : Name := ascii ['.', 's', 't', 'a', 'g', 'e', '-']
def recoveryDash : Name := ascii ['.', 'r', 'e', 'c', 'o', 'v', 'e', 'r', 'y', '-']
def activeDash : Name := ascii ['.', 'a', 'c', 't', 'i', 'v', 'e', '-']
def dotTmp : Name := ascii ['.', 't', 'm', 'p']

/-- What a transaction creates in the store directory. -/
inductive Artifact where
  | generation | stage | recovery | markerTemporary
deriving DecidableEq

def Artifact.name : Artifact → Name → Name
  | generation, token => pairDash ++ token
  | stage, token => stageDash ++ token
  | recovery, token => recoveryDash ++ token
  | markerTemporary, token => activeDash ++ token ++ dotTmp

variable (token : Name)

abbrev generationName : Name := Artifact.generation.name token
abbrev stageName : Name := Artifact.stage.name token
abbrev recoveryName : Name := Artifact.recovery.name token
abbrev markerTemporaryName : Name := Artifact.markerTemporary.name token

/-- Whether `OsString::into_string` and `str::from_utf8` accept the bytes. -/
def isText (bytes : List UInt8) : Bool := (String.fromUTF8? ⟨bytes.toArray⟩).isSome

/-! ### Tokens -/

def isAsciiHexdigit (byte : UInt8) : Bool :=
  48 ≤ byte && byte ≤ 57 || 97 ≤ byte && byte ≤ 102 || 65 ≤ byte && byte ≤ 70

/-- Three fields of hexadecimal digits with a dash between them. -/
def isToken : Bool :=
  let fields := token.splitOn 45
  (fields.take 3).all (fun field => !field.isEmpty && field.all isAsciiHexdigit) &&
    (fields.drop 3).isEmpty && token.count 45 == 2

variable (name : Name)

def isGenerationName : Bool := (name.dropPrefix? pairDash).any isToken

def isStageName : Bool := (name.dropPrefix? stageDash).any isToken

def isMarkerTemporaryName : Bool :=
  ((name.dropPrefix? activeDash).bind (·.dropSuffix? dotTmp)).any isToken

/-- What an artifact token is made of: the process, the time in nanoseconds and a counter. -/
structure ArtifactSeed where
  process : ℕ
  nanos : ℕ
  sequence : ℕ
  process_lt : process < 16 ^ 8
  nanos_lt : nanos < 16 ^ 32
  sequence_lt : sequence < 16 ^ 16

def hexDigit (digit : ℕ) : UInt8 := UInt8.ofNat (if digit < 10 then 48 + digit else 87 + digit)

/-- The `{:x}` format. -/
def hex (n : ℕ) : Name := if n = 0 then [48] else ((Nat.digits 16 n).map hexDigit).reverse

def artifactToken (seed : ArtifactSeed) : Name :=
  hex seed.process ++ 45 :: (hex seed.nanos ++ 45 :: hex seed.sequence)

/-! ### The names of a token are its own -/

/-- The first two bytes tell the kinds of names apart. -/
lemma Artifact.take_name (k : Artifact) (t : Name) : (k.name t).take 2 = (k.name []).take 2 := by
  cases k <;> rfl

variable {k : Artifact} {t : Name} {b : UInt8}

@[simp] lemma Artifact.name_inj {k' : Artifact} {u : Name} :
    k.name t = k'.name u ↔ k = k' ∧ t = u := by
  constructor
  · intro h
    have hk : k = k' := by
      have htake : (k.name []).take 2 = (k'.name []).take 2 := by
        rw [← k.take_name t, ← k'.take_name u, h]
      cases k <;> cases k' <;> first | rfl | exact absurd htake (by decide)
    subst hk
    refine ⟨rfl, ?_⟩
    cases k with
    | markerTemporary => exact (List.append_right_inj _).mp ((List.append_left_inj _).mp h)
    | _ => exact (List.append_right_inj _).mp h
  · rintro ⟨rfl, rfl⟩
    rfl

lemma Artifact.name_ne_of_take {n : Name} (h : (k.name []).take 2 ≠ n.take 2) : k.name t ≠ n := by
  rintro rfl
  exact h (k.take_name t).symm

@[simp] lemma Artifact.name_ne_activeMarker :
    k.name t ≠ activeMarker := name_ne_of_take (by cases k <;> decide)

@[simp] lemma Artifact.name_ne_masterFile :
    k.name t ≠ masterFile := name_ne_of_take (by cases k <;> decide)

@[simp] lemma Artifact.name_ne_userFile :
    k.name t ≠ userFile := name_ne_of_take (by cases k <;> decide)

@[simp] lemma Artifact.name_ne_identityMetadataFile :
    k.name t ≠ identityMetadataFile := name_ne_of_take (by cases k <;> decide)

/-! ### Recognising the names -/

lemma isGenerationName_iff {name : Name} :
    isGenerationName name = true ↔ ∃ t, isToken t = true ∧ name = generationName t := by
  unfold isGenerationName
  rw [Option.any_eq_true]
  constructor
  · rintro ⟨t, h, ht⟩
    obtain ⟨p, rfl, hp⟩ := List.dropPrefix?_eq_some_iff.mp h
    exact ⟨t, ht, by rw [eq_of_beq hp]; rfl⟩
  · rintro ⟨t, ht, rfl⟩
    exact ⟨t, List.dropPrefix?_eq_some_iff.mpr ⟨pairDash, rfl, beq_self_eq_true _⟩, ht⟩

lemma dropPrefix_self (p t : Name) : (p ++ t).dropPrefix? p = some t :=
  List.dropPrefix?_eq_some_iff.mpr ⟨p, rfl, beq_self_eq_true p⟩

lemma eq_of_dropPrefix {n p : Name} (h : n.dropPrefix? p = some t) : n = p ++ t := by
  obtain ⟨p', rfl, hp⟩ := List.dropPrefix?_eq_some_iff.mp h
  rw [eq_of_beq hp]

lemma isText_of_ascii {bytes : List UInt8} (h : ∀ b ∈ bytes, b.toNat < 128) :
    isText bytes = true := by
  have encode : ∀ b : Fin 128, String.utf8EncodeChar (Char.ofNat b) = [UInt8.ofNat b] := by decide
  have valid : (⟨bytes.toArray⟩ : ByteArray).IsValidUTF8 := by
    refine ⟨bytes.map fun b => Char.ofNat b.toNat, ?_⟩
    have hflat : (bytes.map fun b => Char.ofNat b.toNat).flatMap String.utf8EncodeChar = bytes := by
      rw [List.flatMap_map]
      induction bytes with
      | nil => rfl
      | cons b bytes ih =>
        have hb := encode ⟨b.toNat, h b (by simp)⟩
        rw [List.flatMap_cons, ih fun b' hb' => h b' (by simp [hb']), hb]
        simp
    rw [List.utf8Encode, hflat]
    exact ByteArray.ext (by simp)
  unfold isText String.fromUTF8?
  rw [dif_pos valid]
  rfl

/-! ### The tokens that are made -/

lemma hexDigit_isAsciiHexdigit {d : ℕ} (h : d < 16) : isAsciiHexdigit (hexDigit d) = true := by
  have digits : ∀ d : Fin 16, isAsciiHexdigit (hexDigit d) = true := by decide
  exact digits ⟨d, h⟩

lemma hex_digits (n : ℕ) : ∀ b ∈ hex n, isAsciiHexdigit b = true := by
  intro b hb
  unfold hex at hb
  split at hb
  · rw [List.mem_singleton] at hb
    subst hb
    rfl
  · rw [List.mem_reverse, List.mem_map] at hb
    obtain ⟨d, hd, rfl⟩ := hb
    exact hexDigit_isAsciiHexdigit (Nat.digits_lt_base (by decide) hd)

lemma hex_ne_nil (n : ℕ) : hex n ≠ [] := by
  unfold hex
  split
  · exact List.cons_ne_nil _ _
  · next hn => simpa [Nat.digits_eq_nil_iff_eq_zero] using hn

lemma length_hex_le {n k : ℕ} (hk : 0 < k) (h : n < 16 ^ k) : (hex n).length ≤ k := by
  unfold hex
  split
  · exact hk
  · rw [List.length_reverse, List.length_map]
    exact (Nat.digits_length_le_iff (by decide) n).mpr h

lemma isAsciiHexdigit_ne_dash (h : isAsciiHexdigit b = true) : b ≠ 45 := by
  rintro rfl
  exact absurd h (by decide)

lemma splitOn_hex_cons (n : ℕ) (rest : Name) :
    (hex n ++ 45 :: rest).splitOn 45 = hex n :: rest.splitOn 45 := by
  refine List.splitOnP_append_cons_of_forall_mem (fun b hb => ?_) 45 (by simp) rest
  exact beq_false_of_ne (isAsciiHexdigit_ne_dash (hex_digits n b hb))

lemma count_hex (n : ℕ) : (hex n).count 45 = 0 :=
  List.count_eq_zero.mpr fun h => isAsciiHexdigit_ne_dash (hex_digits n 45 h) rfl

lemma isToken_artifactToken (seed : ArtifactSeed) : isToken (artifactToken seed) = true := by
  have last : (hex seed.sequence).splitOn 45 = [hex seed.sequence] := by
    refine List.splitOnP_eq_singleton fun b hb => ?_
    exact beq_false_of_ne (isAsciiHexdigit_ne_dash (hex_digits _ b hb))
  have fields : (artifactToken seed).splitOn 45 =
      [hex seed.process, hex seed.nanos, hex seed.sequence] := by
    rw [artifactToken, splitOn_hex_cons, splitOn_hex_cons, last]
  have dashes : (artifactToken seed).count 45 = 2 := by
    simp [artifactToken, count_hex]
  unfold isToken
  rw [fields, dashes]
  simp [hex_ne_nil, List.all_eq_true.mpr (hex_digits _)]

lemma isAsciiHexdigit_lt (h : isAsciiHexdigit b = true) : b.toNat < 128 := by
  simp only [isAsciiHexdigit, Bool.or_eq_true, Bool.and_eq_true, decide_eq_true_eq] at h
  rcases h with (⟨-, h⟩ | ⟨-, h⟩) | ⟨-, h⟩ <;> exact Nat.lt_of_le_of_lt h (by decide)

lemma artifactToken_lt (seed : ArtifactSeed) : ∀ b ∈ artifactToken seed, b.toNat < 128 := by
  intro b hb
  simp only [artifactToken, List.mem_append, List.mem_cons] at hb
  rcases hb with hb | rfl | hb | rfl | hb
  · exact isAsciiHexdigit_lt (hex_digits _ b hb)
  · decide
  · exact isAsciiHexdigit_lt (hex_digits _ b hb)
  · decide
  · exact isAsciiHexdigit_lt (hex_digits _ b hb)

lemma length_artifactToken_le (seed : ArtifactSeed) : (artifactToken seed).length ≤ 58 := by
  have hp := length_hex_le (by decide) seed.process_lt
  have hn := length_hex_le (by decide) seed.nanos_lt
  have hs := length_hex_le (by decide) seed.sequence_lt
  simp only [artifactToken, List.length_append, List.length_cons]
  omega

end T1Bridge.Store
