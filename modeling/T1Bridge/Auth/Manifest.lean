import T1Bridge.Auth.Catalog
import T1Bridge.Auth.FingerprintWire

/-! # The manifest on the disk

`encodeMetadata` writes the manifest of a generation, `decodeMetadata` reads it.  Every reader of a
field takes off exactly what the encoder writes there, and both directions check the same list of
identities, so a byte string is accepted exactly when it is what the encoder makes of the manifest it
is read as.  A catalog is written as its next manifest and joined again with the live identities. -/

namespace T1Bridge

open Codec
open Except (bind_eq_ok ite_error_bind_eq_ok ite_error_eq_ok of_ite_error_ok ok_bind)

variable {metadata : IdentityMetadata} {encoded : Packet} {identities : List IdentityMetadataEntry}
  {owner : Username}

def validateIdentities (identities : List IdentityMetadataEntry) : Except MetadataError Unit :=
  if identities.length > maxIdentities then .error .tooManyIdentities
  else if ¬ (identities.map IdentityMetadataEntry.id).Nodup then .error .duplicateIdentity
  else .ok ()

def IdentityMetadataEntry.bytes (entry : IdentityMetadataEntry) : List UInt8 :=
  entry.id.bytes ++ [entry.finger.elim 0 FingerLabel.toByte]

def encodeMetadata (metadata : IdentityMetadata) : Except MetadataError Packet := do
  validateIdentities metadata.identities
  let username := utf8Bytes metadata.owner.value
  -- the two lengths are written as one byte each
  if username.length ≥ 256 then .error .invalidUsername
  else if metadata.identities.length ≥ 256 then .error .tooManyIdentities
  else .ok (metadataMagic ++ [metadataVersion, metadata.identities.length.toUInt8] ++
    UInt16.toBeBytes 0 ++ [username.length.toUInt8] ++ username ++
    metadata.identities.flatMap IdentityMetadataEntry.bytes)

/-! ### Fields -/

lemma decodeMetadataFinger_ok {value : UInt8} {finger : Option FingerLabel} :
    decodeMetadataFinger value = .ok finger ↔ value = finger.elim 0 FingerLabel.toByte := by
  unfold decodeMetadataFinger
  constructor
  · intro h
    split at h
    · cases h
      assumption
    split at h <;> cases h
    exact FingerLabel.decode_ok.mp (by assumption)
  · rintro rfl
    rcases finger with _ | _ | _ <;> rfl

lemma takeMetadata_ok {bytes taken rest : List UInt8} {n : ℕ} :
    takeMetadata bytes n = .ok (taken, rest) ↔ taken.length = n ∧ bytes = taken ++ rest := take_ok

lemma inverts_decodeEntry : Inverts decodeEntry IdentityMetadataEntry.bytes := by
  intro bytes entry rest
  simp only [decodeEntry, bind_eq_ok, Prod.exists, takeMetadata_ok]
  constructor
  · rintro ⟨id, _, ⟨-, rfl⟩, h⟩
    split at h
    · cases h
    next hnew =>
    simp only [bind_eq_ok, Prod.exists, takeMetadata_ok, decodeMetadataFinger_ok] at h
    obtain ⟨value, _, ⟨hone, rfl⟩, finger, hfinger, ⟨⟩⟩ := h
    obtain ⟨byte, rfl⟩ := List.length_eq_one_iff.mp hone
    simpa [IdentityMetadataEntry.bytes, IdentityId.new_ok.mp hnew] using hfinger
  · rintro rfl
    refine ⟨_, _, ⟨entry.id.length_eq, List.append_assoc ..⟩, ?_⟩
    rw [IdentityId.new_ok.mpr rfl]
    exact ok_bind (decodeMetadataFinger_ok.mpr rfl) _

lemma decodeMetadataOwner_ok {bytes : List UInt8} :
    decodeMetadataOwner bytes = .ok owner ↔ bytes = utf8Bytes owner.value := by
  unfold decodeMetadataOwner
  constructor
  · intro h
    split at h
    · cases h
    next hutf =>
    split at h <;> cases h
    next hnew => rw [fromUTF8_eq_some.mp hutf, Username.new_ok.mp hnew]
  · rintro rfl
    simp only [fromUTF8_eq_some.mpr rfl, Username.new_ok.mpr rfl]

lemma IdentityMetadata.new_ok : IdentityMetadata.new owner identities = .ok metadata ↔
      validateIdentities identities = .ok () ∧ ⟨owner, identities⟩ = metadata := by
  unfold IdentityMetadata.new validateIdentities
  split_ifs <;> simp

/-! ### Manifests -/

/-- The nine header bytes of a manifest, its owner and its identities. -/
def IdentityMetadata.bytes (metadata : IdentityMetadata) : Packet :=
  metadataMagic ++ [metadataVersion, metadata.identities.length.toUInt8, 0, 0,
    (utf8Bytes metadata.owner.value).length.toUInt8] ++
      (utf8Bytes metadata.owner.value ++ metadata.identities.flatMap IdentityMetadataEntry.bytes)

lemma length_of_validateIdentities
    (h : validateIdentities identities = .ok ()) : identities.length ≤ maxIdentities :=
  Nat.not_lt.mp (of_ite_error_ok h).1

lemma encodeMetadata_ok : encodeMetadata metadata = .ok encoded ↔
    validateIdentities metadata.identities = .ok () ∧ metadata.bytes = encoded := by
  unfold encodeMetadata
  rw [Except.unit_bind_eq_ok]
  refine and_congr_right fun hvalid => ?_
  have hname := metadata.owner.length_le
  have hfew := length_of_validateIdentities hvalid
  unfold maxUsernameSize at hname
  unfold maxIdentities at hfew
  dsimp only
  rw [if_neg (by omega), if_neg (by omega), Except.ok.injEq]
  simp [IdentityMetadata.bytes, UInt16.toBeBytes]

lemma IdentityMetadata.length_bytes (h : validateIdentities metadata.identities = .ok ()) :
    metadata.bytes.length ≤ maxManifestSize := by
  have hname := metadata.owner.length_le
  have hfew := length_of_validateIdentities h
  have hentry : ∀ entry : IdentityMetadataEntry, entry.bytes.length = 17 := by
    intro entry
    rw [IdentityMetadataEntry.bytes, List.length_append, entry.id.length_eq]
    rfl
  unfold maxIdentities at hfew
  simp [IdentityMetadata.bytes, metadataMagic, ascii, maxManifestSize, metadataHeaderSize,
    maxIdentities, metadataEntrySize, List.length_flatMap, hentry]
  omega

lemma eq_header_append (h : metadataHeaderSize ≤ encoded.length) :
    encoded = encoded.take 4 ++ [encoded.getD 4 0, encoded.getD 5 0, encoded.getD 6 0,
      encoded.getD 7 0, encoded.getD 8 0] ++ encoded.drop metadataHeaderSize := by
  match encoded, h with
  | _ :: _ :: _ :: _ :: _ :: _ :: _ :: _ :: _ :: _, _ => rfl

lemma decodeEntries_ok {count : ℕ}
    {bytes rest : List UInt8} : decodeEntries count bytes = .ok (identities, rest) ↔
      identities.length = count ∧ bytes = identities.flatMap IdentityMetadataEntry.bytes ++ rest :=
  inverts_decodeEntry.counted (fun _ => rfl) fun _ _ => rfl

lemma decodeMetadata_ok : decodeMetadata encoded = .ok metadata ↔
    validateIdentities metadata.identities = .ok () ∧ metadata.bytes = encoded := by
  simp only [decodeMetadata, ite_error_eq_ok, bind_eq_ok, Prod.exists, takeMetadata_ok, not_not,
    not_lt, ite_error_bind_eq_ok, decodeMetadataOwner_ok, decodeEntries_ok, IdentityMetadata.new_ok]
  constructor
  · rintro ⟨-, hshort, hmagic, hversion, -, hreserved, _, _, ⟨hlength, hrest⟩, owner, rfl,
      identities, left, ⟨hcount, rfl⟩, rfl, hvalid, rfl⟩
    obtain ⟨hhigh, hlow⟩ : (0 : UInt8) = encoded.getD 6 0 ∧ (0 : UInt8) = encoded.getD 7 0 := by
      simpa [UInt16.toBeBytes] using (toBeBytes_eq_iff (by decide)).mpr hreserved
    refine ⟨hvalid, ?_⟩
    rw [eq_header_append hshort, hmagic, hversion, ← hhigh, ← hlow, hrest]
    simp [IdentityMetadata.bytes, hlength, hcount]
  · rintro ⟨hvalid, rfl⟩
    have hlong := metadata.length_bytes hvalid
    have hfew := length_of_validateIdentities hvalid
    have hcount : metadata.identities.length.toUInt8.toNat = metadata.identities.length :=
      Nat.mod_eq_of_lt (Nat.lt_of_le_of_lt hfew (by decide))
    refine ⟨hlong, ?_⟩
    simp [IdentityMetadata.bytes, metadataMagic, ascii, metadataHeaderSize, hcount, hfew]
    exact ⟨rfl, _, _, ⟨metadata.owner.length_byte.symm, rfl⟩, rfl, hvalid, rfl⟩

/-- The manifest format is canonical: what is encoded is not too large and is read back, and what is
read is the encoding of the manifest it is read as. -/
theorem manifest_format_is_canonical (metadata : IdentityMetadata) (encoded : Packet) :
    (encodeMetadata metadata = .ok encoded ↔ decodeMetadata encoded = .ok metadata) ∧
      (encodeMetadata metadata = .ok encoded → encoded.length ≤ maxManifestSize) := by
  rw [encodeMetadata_ok, decodeMetadata_ok]
  refine ⟨Iff.rfl, ?_⟩
  rintro ⟨hvalid, rfl⟩
  exact metadata.length_bytes hvalid

/-! ### The catalog between two manifests -/

namespace StandardIdentityCatalog

variable (catalog : StandardIdentityCatalog) (id : IdentityId)

abbrev ids : List IdentityId := catalog.identities.map IdentityMetadataEntry.id

lemma valid_add {entry : IdentityMetadataEntry}
    (hfew : ¬ catalog.identities.length ≥ maxOwnerIdentities)
    (hnew : ¬ catalog.identities.any (·.id = entry.id)) :
    ValidIds ((catalog.identities ++ [entry]).map IdentityMetadataEntry.id) := by
  unfold maxOwnerIdentities at hfew
  have hnotin : entry.id ∉ catalog.ids := by
    simpa using hnew
  rw [List.map_append]
  refine ⟨?_, by simpa using catalog.valid.2.concat hnotin⟩
  simp only [List.length_append, List.length_map, List.length_singleton, maxIdentities]
  omega

def addLabeled (finger : FingerLabel) : Except CatalogError StandardIdentityCatalog :=
  if hfew : catalog.identities.length ≥ maxOwnerIdentities then .error .tooManyIdentities
  else if hnew : catalog.identities.any (·.id = id) then .error .duplicateIdentity
  else .ok ⟨catalog.owner, catalog.identities ++ [⟨id, some finger⟩], catalog.valid_add hfew hnew⟩

lemma valid_remove (p : IdentityMetadataEntry → Bool) :
    ValidIds ((catalog.identities.eraseP p).map IdentityMetadataEntry.id) := by
  have hsub := (List.eraseP_sublist (p := p) (l := catalog.identities)).map IdentityMetadataEntry.id
  exact ⟨hsub.length_le.trans catalog.valid.1, catalog.valid.2.sublist hsub⟩

/-- The first labelled entry with the id goes. -/
def removeLabeled : Except CatalogError StandardIdentityCatalog :=
  if catalog.containsLabeled id then
    .ok ⟨catalog.owner, catalog.identities.eraseP fun entry => entry.id = id && entry.finger.isSome,
      catalog.valid_remove _⟩
  else .error .identityNotLabeled

def encodeNextManifest : Except CatalogError Packet :=
  match IdentityMetadata.new catalog.owner catalog.identities with
  | .error _ => .error .invalidState
  | .ok manifest => (encodeMetadata manifest).mapError fun _ => .invalidState

/-- The recovery anchors. -/
def unlabeled : List IdentityMetadataEntry := catalog.identities.filter (·.finger.isNone)

variable {catalog id} {catalog' : StandardIdentityCatalog}

lemma unlabeled_removeLabeled (h : catalog.removeLabeled id = .ok catalog') :
    catalog'.unlabeled = catalog.unlabeled := by
  unfold removeLabeled at h
  split_ifs at h with hcontains
  cases h
  obtain ⟨entry, hmem, hentry⟩ := List.any_eq_true.mp hcontains
  obtain ⟨removed, before, after, -, hremoved, heq, herase⟩ := List.exists_of_eraseP
    (p := fun entry => entry.id = id && entry.finger.isSome) hmem hentry
  have hlabel : removed.finger.isNone = false := by
    rw [← Option.not_isSome, (Bool.and_eq_true_iff.mp hremoved).2]
    rfl
  simp only [unlabeled, herase]
  rw [heq, List.filter_append, List.filter_append, List.filter_cons_of_neg (by simp [hlabel])]

lemma reconcile_ok {manifest : IdentityMetadata} {owner : Username} {live : List IdentityId} :
    reconcile (some manifest) owner live = .ok catalog ↔
      manifest = ⟨owner, catalog.identities⟩ ∧ catalog.owner = owner ∧ live.Nodup ∧
        ∀ id, id ∈ live ↔ id ∈ catalog.ids := by
  unfold reconcile sameIdentitySet
  constructor
  · intro h
    split_ifs at h with hlive
    dsimp only at h
    split_ifs at h with howner hentries hsame
    cases h
    rw [Bool.not_eq_true, Bool.not_eq_false', Bool.and_eq_true_iff, beq_iff_eq] at hsame
    obtain ⟨hlength, hall⟩ := hsame
    have hsub : manifest.identities.map IdentityMetadataEntry.id ⊆ live := by
      simpa [List.subset_def] using hall
    have hperm := (hentries.2.subperm hsub).perm_of_length_le (by simp [hlength])
    refine ⟨?_, rfl, hlive.2, fun id => hperm.mem_iff.symm⟩
    rw [← not_not.mp howner]
  · rintro ⟨rfl, rfl, hnodup, hmem⟩
    have hperm := (List.perm_ext_iff_of_nodup hnodup catalog.valid.2).mpr hmem
    have hlive : ValidIds live := ⟨hperm.length_eq ▸ catalog.valid.1, hnodup⟩
    have hlength : catalog.identities.length = live.length := by
      rw [hperm.length_eq, List.length_map]
    have hall : ∀ entry ∈ catalog.identities, entry.id ∈ live := by
      intro entry hentry
      exact (hmem _).mpr (List.mem_map_of_mem hentry)
    rw [dif_pos hlive]
    dsimp only
    rw [if_neg (by simp), dif_pos catalog.valid, if_neg (by simpa [hlength] using hall)]

/-- **Catalogs.**  Ids are distinct and at most five; the next manifest is read back and gives, with
the live identities in any order, the same catalog; anchors stay when labelled identities come and
go; and a manifest is reconciled, with all its entries, exactly with its own set of identities. -/
theorem catalog_survives_its_manifest (catalog : StandardIdentityCatalog) : ValidIds (catalog.ids) ∧
    (∃ encoded manifest, catalog.encodeNextManifest = .ok encoded ∧
      decodeMetadata encoded = .ok manifest ∧ ∀ live, live.Perm (catalog.ids) →
        reconcile (some manifest) catalog.owner live = .ok catalog) ∧
    (∀ id finger catalog', catalog.addLabeled id finger = .ok catalog' →
      catalog'.unlabeled = catalog.unlabeled) ∧
    (∀ id catalog', catalog.removeLabeled id = .ok catalog' →
      catalog'.unlabeled = catalog.unlabeled) ∧
    ∀ manifest owner live, reconcile (some manifest) owner live = .ok catalog ↔
      manifest = ⟨owner, catalog.identities⟩ ∧ catalog.owner = owner ∧ live.Nodup ∧
        ∀ id, id ∈ live ↔ id ∈ catalog.ids := by
  have hvalid : validateIdentities catalog.identities = .ok () := by
    obtain ⟨hfew, hnodup⟩ := catalog.valid
    rw [List.length_map] at hfew
    rw [validateIdentities, if_neg (by omega), if_neg (by simpa using hnodup)]
  refine ⟨catalog.valid, ?_, fun _ _ _ h => ?_, fun _ _ => unlabeled_removeLabeled,
    fun _ _ _ => reconcile_ok⟩
  swap
  · unfold addLabeled at h
    split_ifs at h
    cases h
    simp [unlabeled]
  have hencode : encodeMetadata ⟨catalog.owner, catalog.identities⟩ = .ok _ :=
    encodeMetadata_ok.mpr ⟨hvalid, rfl⟩
  refine ⟨_, ⟨catalog.owner, catalog.identities⟩, ?_, decodeMetadata_ok.mpr ⟨hvalid, rfl⟩, ?_⟩
  · rw [encodeNextManifest, IdentityMetadata.new_ok.mpr ⟨hvalid, rfl⟩]
    dsimp only
    rw [hencode]
    rfl
  · intro live hperm
    exact reconcile_ok.mpr ⟨rfl, rfl, hperm.nodup_iff.mpr catalog.valid.2, fun _ => hperm.mem_iff⟩

end StandardIdentityCatalog

end T1Bridge
