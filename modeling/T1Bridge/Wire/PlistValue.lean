import Mathlib.Logic.Equiv.Defs
import T1Bridge.Wire.PlistBuild

/-! # The value of a document

A decoder that succeeds returns what `build` makes of the objects, whatever bytes they are written in
and wherever they stand, so two documents with the same objects, differently numbered, have the same
value. -/

namespace T1Bridge.Wire

variable {entries : List (ℕ × ℕ)} {children : List ℕ} {item : Item}

/-! ### Other numbers for the objects -/

def Item.renumber (σ : ℕ → ℕ) : Item → Item
  | .array form references => .array form (references.map σ)
  | .dictionary form keys values => .dictionary form (keys.map σ) (values.map σ)
  | item => item

/-- The same objects under other numbers. -/
structure SameObjects (σ : Equiv.Perm ℕ) (items items' : List Item) : Prop where
  length : items'.length = items.length
  object : ∀ index item, items[index]? = some item → items'[σ index]? = some (item.renumber σ)

section Renumber

variable {σ : ℕ → ℕ} {f g : ℕ → Building Value}

lemma buildChildren_map (hg : ∀ child ∈ children, g (σ child) = f child) :
    buildChildren g (children.map σ) = buildChildren f children := by
  induction children with
  | nil => rfl
  | cons child children ih =>
    obtain ⟨hchild, hchildren⟩ := List.forall_mem_cons.mp hg
    rw [List.map_cons, buildChildren, buildChildren, hchild, ih hchildren]

lemma buildEntries_map (hg : ∀ entry ∈ entries, g (σ entry.1) = f entry.1 ∧ g (σ entry.2) = f entry.2)
    (dictionary : List (String × Value)) :
    buildEntries g (entries.map (Prod.map σ σ)) dictionary = buildEntries f entries dictionary := by
  induction entries generalizing dictionary with
  | nil => rfl
  | cons entry entries ih =>
    obtain ⟨⟨hkey, hvalue⟩, hentries⟩ := List.forall_mem_cons.mp hg
    rw [List.map_cons, Prod.map_apply, buildEntries, buildEntries, hkey, hvalue]
    simp only [ih hentries]

lemma Item.build_renumber (hg : ∀ child ∈ item.children, g (σ child) = f child) :
    (item.renumber σ).build g = item.build f := by
  cases item with
  | array form references =>
    have hg : ∀ child ∈ references, g (σ child) = f child := hg
    rw [Item.renumber, Item.build, Item.build, buildChildren_map hg]
  | dictionary form keys values =>
    rw [Item.renumber, Item.build, Item.build, List.zip_map,
      buildEntries_map fun entry hentry => ?_]
    obtain ⟨hkey, hvalue⟩ := List.of_mem_zip hentry
    exact ⟨hg _ (List.mem_append_left _ hkey), hg _ (List.mem_append_right _ hvalue)⟩
  | _ => rfl

end Renumber

lemma SameObjects.build {σ : Equiv.Perm ℕ} {items items' : List Item}
    (h : SameObjects σ items items')
    (hrange : ∀ item ∈ items, ∀ child ∈ item.children, child < items.length) (levels : ℕ) {index : ℕ}
    (hindex : index < items.length) :
    Wire.build items' levels (σ index) = Wire.build items levels index := by
  induction levels generalizing index with
  | zero => rfl
  | succ levels ih =>
    have hitem := List.getElem?_eq_getElem hindex
    have hmem := List.mem_of_getElem? hitem
    rw [Wire.build, Wire.build, getD_of_getElem? hitem, getD_of_getElem? (h.object _ _ hitem),
      Item.build_renumber fun child hchild => ih (hrange _ hmem child hchild)]

/-- The value of a document does not depend on the numbers of its objects, on where they stand, or
on the widths of its offsets and references. -/
theorem layout_is_immaterial {input input' : Packet} {trailer trailer' : Trailer}
    {items items' : List Item} {offsets offsets' : List ℕ} {σ : Equiv.Perm ℕ} {value value' : Value}
    (h : Written input trailer items offsets) (h' : Written input' trailer' items' offsets')
    (hsame : SameObjects σ items items') (htop : trailer'.topObject = σ trailer.topObject)
    (hok : decode input = .ok value) (hok' : decode input' = .ok value') : value = value' := by
  obtain ⟨work, hbuild⟩ := h.built hok
  obtain ⟨work', hbuild'⟩ := h'.built hok'
  rw [htop, hsame.build h.range _ (h.count ▸ h.top), hbuild] at hbuild'
  cases hbuild'
  rfl

/-- An array with one element. -/
def smallDocument : Packet :=
  header ++ [0xa1, 0x01, 0x00] ++ [8, 10] ++ Trailer.bytes ⟨1, 1, 2, 0, 11⟩

lemma smallDocument_written :
    Written smallDocument ⟨1, 1, 2, 0, 11⟩ [.array .inline [1], .null] [8, 10] where
  offsetSize := by decide
  referenceSize := by decide
  count := rfl
  top := by decide
  wellFormed := by
    have hfits : LengthForm.inline.Fits 1 := show 1 < 15 by decide
    simp [Item.WellFormed, Item.Refers, Item.children, hfits, maxReferences]
  begins := rfl
  objects := List.Forall₂.cons rfl (List.Forall₂.cons rfl List.Forall₂.nil)
  tiles := ⟨[(8, 2), (10, 1)], List.Perm.refl _, rfl, by decide, rfl, by decide, rfl⟩
  fits := by decide
  table := rfl
  trailer_eq := rfl

/-- The same array with its element first, and with wider words. -/
def swappedDocument : Packet :=
  header ++ [0x00, 0xa1, 0x00, 0x00] ++ [0, 8, 0, 9] ++ Trailer.bytes ⟨2, 2, 2, 1, 12⟩

lemma swappedDocument_written :
    Written swappedDocument ⟨2, 2, 2, 1, 12⟩ [.null, .array .inline [0]] [8, 9] where
  offsetSize := by decide
  referenceSize := by decide
  count := rfl
  top := by decide
  wellFormed := by
    have hfits : LengthForm.inline.Fits 1 := show 1 < 15 by decide
    simp [Item.WellFormed, Item.Refers, Item.children, hfits, maxReferences]
  begins := rfl
  objects := List.Forall₂.cons rfl (List.Forall₂.cons rfl List.Forall₂.nil)
  tiles := ⟨[(8, 1), (9, 3)], List.Perm.refl _, rfl, by decide, rfl, by decide, rfl⟩
  fits := by decide
  table := rfl
  trailer_eq := rfl

lemma small_swapped :
    SameObjects (Equiv.swap 0 1) [.array .inline [1], .null] [.null, .array .inline [0]] := by
  refine ⟨rfl, fun index item hitem => ?_⟩
  match index, hitem with
  | 0, hitem | 1, hitem =>
    cases hitem
    simp [Item.renumber]
  | index + 2, hitem => simp at hitem

set_option maxRecDepth 4000 in
theorem layout_is_immaterial_small :
    decode smallDocument = .ok (.array [.null]) ∧ decode swappedDocument = .ok (.array [.null]) ∧
      Value.array [.null] = Value.array [.null] :=
  ⟨rfl, rfl, layout_is_immaterial smallDocument_written swappedDocument_written small_swapped
    (by simp) (rfl : decode smallDocument = .ok (.array [.null])) rfl⟩

end T1Bridge.Wire
