import Mathlib.Algebra.BigOperators.Group.List.Basic
import T1Bridge.Wire.PlistBuild
import T1Bridge.Wire.PlistRoundTrip

/-! # The work of the decoder

An object that many containers name is built once for each of them, so a small document can stand for
a huge value.  Every call of the builder is charged before anything is made, hence the calls, the
nodes and the bytes stay within the limits also when the document is rejected in the end; and the
check of the graph visits an object at most once for each name of it and once more. -/

namespace T1Bridge.Wire

open Building
open Except (of_bind_ok of_ite_error_ok)

variable {item : Item} {items : List Item} {levels index : ℕ} {work work' : Work}

/-! ### What the builder is charged -/

/-- What was charged is within the limits, and all calls but the spare ones were charged. -/
structure Work.Within (spare : ℕ) (work : Work) : Prop where
  calls : work.calls ≤ work.budget.nodes + spare
  nodes : work.budget.nodes ≤ maxDecodedNodes
  valueBytes : work.budget.valueBytes ≤ maxValueBytes

/-- Only a step that fails leaves a call that was not charged.  A step that succeeds was charged for
the bytes, and for enough nodes. -/
def Bounded {α : Type} (x : Building α) (bytes : ℕ) (Q : ℕ → α → Prop) : Prop :=
  ∀ work, work.Within 0 →
    match x work with
    | (.ok a, work') => work'.Within 0 ∧ work.budget.valueBytes + bytes ≤ work'.budget.valueBytes ∧
      ∃ nodes, work.budget.nodes + nodes ≤ work'.budget.nodes ∧ Q nodes a
    | (.error _, work') => work'.Within 1

section Bounded

variable {α β : Type} {x : Building α} {bytes bytes' : ℕ} {Q : ℕ → α → Prop}

lemma Work.Within.spare (h : work.Within 0) : work.Within 1 :=
  { h with calls := h.calls.trans (Nat.le_succ _) }

lemma bounded_pure {a : α} (h : Q 0 a) : Bounded (pure a) 0 Q :=
  fun _ hwork => ⟨hwork, le_rfl, 0, le_rfl, h⟩

lemma bounded_fail (e : BuildError) : Bounded (fail e : Building α) bytes Q := fun _ h => h.spare

lemma Bounded.bind {f : α → Building β} {R : ℕ → β → Prop} (hx : Bounded x bytes Q)
    (hf : ∀ m a, Q m a → Bounded (f a) bytes' fun n => R (m + n)) :
    Bounded (x >>= f) (bytes + bytes') R := by
  intro work h
  have hx := hx work h
  rw [bind_run]
  rcases hrun : x work with ⟨e | a, middle⟩
  · rw [hrun] at hx
    exact hx
  rw [hrun] at hx
  obtain ⟨hmiddle, hbytes, m, hm, hQ⟩ := hx
  have hf := hf m a hQ middle hmiddle
  dsimp only
  rcases hlast : f a middle with ⟨e | b, work'⟩
  · rw [hlast] at hf
    exact hf
  · rw [hlast] at hf
    obtain ⟨hwork, hbytes', n, hn, hR⟩ := hf
    exact ⟨hwork, by omega, m + n, by omega, hR⟩

lemma Bounded.mono {R : ℕ → α → Prop} (hx : Bounded x bytes Q) (hbytes : bytes' ≤ bytes)
    (hQ : ∀ n a, Q n a → R n a) : Bounded x bytes' R := by
  intro work h
  have hx := hx work h
  rcases hrun : x work with ⟨e | a, work'⟩
  · rw [hrun] at hx
    exact hx
  · rw [hrun] at hx
    obtain ⟨hwork, hcharged, n, hn, hQa⟩ := hx
    exact ⟨hwork, by omega, n, hn, hQ n a hQa⟩

lemma bounded_chargeBytes (amount : ℕ) :
    Bounded (charge (·.chargeBytes amount)) amount fun _ _ => True := by
  intro work h
  rw [charge, DecodeBudget.chargeBytes]
  by_cases hmax : work.budget.valueBytes + amount > maxValueBytes
  · rw [if_pos hmax]
    exact h.spare
  · rw [if_neg hmax]
    exact ⟨⟨h.calls, h.nodes, not_lt.mp hmax⟩, le_rfl, 0, le_rfl, trivial⟩

/-- The node is charged before anything else is done for it. -/
lemma Bounded.node (hx : Bounded x bytes fun n a => Q (n + 1) a) :
    Bounded (do call; charge DecodeBudget.chargeNode; x) bytes Q := by
  intro work h
  have hcalls := h.calls
  rw [bind_run, call]
  dsimp only
  rw [bind_run, charge, DecodeBudget.chargeNode]
  by_cases hmax : work.budget.nodes + 1 > maxDecodedNodes
  · rw [if_pos hmax]
    exact ⟨Nat.succ_le_succ hcalls, h.nodes, h.valueBytes⟩
  rw [if_neg hmax]
  have hx := hx _ (⟨Nat.succ_le_succ hcalls, not_lt.mp hmax, h.valueBytes⟩ :
    Work.Within 0 ⟨work.calls + 1, ⟨work.budget.nodes + 1, work.budget.valueBytes⟩⟩)
  dsimp only at hx ⊢
  rcases hrun : x ⟨work.calls + 1, ⟨work.budget.nodes + 1, work.budget.valueBytes⟩⟩ with
    ⟨e | a, work'⟩
  · rw [hrun] at hx
    exact hx
  · rw [hrun] at hx
    obtain ⟨hwork, hbytes, n, hn, hQ⟩ := hx
    exact ⟨hwork, hbytes, n + 1, by omega, hQ⟩

end Bounded

/-! ### The size of the value -/

/-- The bytes of the data and the texts below an object, as they are written, once for each name. -/
def encodedBytes (items : List Item) : ℕ → ℕ → ℕ
  | 0, _ => 0
  | levels + 1, index => (items.getD index .null).charge +
    ((items.getD index .null).children.map (encodedBytes items levels)).sum

lemma insertEntry_size {key : String} {value : Value} {dictionary dictionary' : List (String × Value)}
    (h : insertEntry key value dictionary = some dictionary') :
    countEntries dictionary' = countEntries dictionary + (1 + value.count) ∧
      levelsEntries dictionary' = max value.levels (levelsEntries dictionary) := by
  induction dictionary generalizing dictionary' with
  | nil =>
    cases h
    exact ⟨Nat.add_comm _ _, rfl⟩
  | cons entry entries ih =>
    unfold insertEntry at h
    split at h
    · cases h
      exact ⟨Nat.add_comm _ _, rfl⟩
    split at h
    · cases h
    obtain ⟨rest, hrest, rfl⟩ := Option.map_eq_some_iff.mp h
    obtain ⟨hcount, hlevels⟩ := ih hrest
    simp only [countEntries, levelsEntries, hcount, hlevels]
    exact ⟨by omega, max_left_comm _ _ _⟩

section Size

variable {f : ℕ → Building Value} {bytes : ℕ → ℕ}
  (hf : ∀ child, Bounded (f child) (bytes child) fun n value => value.count ≤ n ∧ value.levels ≤ levels)

include hf

lemma bounded_children (children : List ℕ) :
    Bounded (buildChildren f children) (children.map bytes).sum
      fun n values => countAll values ≤ n ∧ levelsAll values ≤ levels := by
  induction children with
  | nil => exact bounded_pure ⟨le_rfl, Nat.zero_le _⟩
  | cons child children ih =>
    refine (hf child).bind fun m value hvalue => ih.bind fun n values hvalues => bounded_pure ?_
    exact ⟨Nat.add_le_add hvalue.1 hvalues.1, max_le hvalue.2 hvalues.2⟩

lemma bounded_entries (entries : List (ℕ × ℕ)) (dictionary : List (String × Value))
    (hdictionary : levelsEntries dictionary ≤ levels) :
    Bounded (buildEntries f entries dictionary) (entries.map fun e => bytes e.1 + bytes e.2).sum
      fun n result => countEntries result ≤ countEntries dictionary + n ∧
        levelsEntries result ≤ levels := by
  induction entries generalizing dictionary with
  | nil => exact bounded_pure ⟨le_rfl, hdictionary⟩
  | cons entry entries ih =>
    rw [List.map_cons, List.sum_cons, Nat.add_assoc]
    refine (hf entry.1).bind fun l key hkey => (hf entry.2).bind fun m value hvalue => ?_
    cases hinsert : insertEntry key.text value dictionary with
    | none => exact bounded_fail _
    | some dictionary' =>
      obtain ⟨hcount, hdeep⟩ := insertEntry_size hinsert
      refine (ih _ (hdeep.trans_le (max_le hvalue.2 hdictionary))).mono le_rfl ?_
      rintro n result ⟨hresult, hlevels⟩
      have hpos := count_pos key
      exact ⟨by omega, hlevels⟩

lemma bounded_item (hwf : item.WellFormed) :
    Bounded (item.build f) (item.charge + (item.children.map bytes).sum)
      fun n value => value.count ≤ n + 1 ∧ value.levels ≤ levels + 1 := by
  cases item with
  | null | boolean value | integer exponent value =>
    exact bounded_pure ⟨le_rfl, Nat.le_add_left _ _⟩
  | data form value | ascii form value | utf16 form value =>
    exact (bounded_chargeBytes _).bind fun _ _ _ =>
      bounded_pure ⟨Nat.le_add_left _ _, Nat.le_add_left _ _⟩
  | array form references =>
    rw [Nat.add_comm]
    refine (bounded_children hf references).bind fun n values hvalues => bounded_pure ?_
    rw [Value.count, Value.levels]
    omega
  | dictionary form keys values =>
    have hsame := hwf.2.1
    have hkeys : (keys.zip values).map (fun entry => bytes entry.1) = keys.map bytes := by
      conv_rhs => rw [← List.map_fst_zip hsame.le, List.map_map]
      rfl
    have hvalues : (keys.zip values).map (fun entry => bytes entry.2) = values.map bytes := by
      conv_rhs => rw [← List.map_snd_zip hsame.ge, List.map_map]
      rfl
    have hentries := bounded_entries hf (keys.zip values) [] (Nat.zero_le levels)
    rw [List.sum_map_add, hkeys, hvalues, ← List.sum_append, ← List.map_append] at hentries
    rw [Nat.add_comm]
    refine hentries.bind fun n entries hresult => bounded_pure ?_
    rw [countEntries] at hresult
    rw [Value.count, Value.levels]
    omega

end Size

lemma bounded_build (hwf : ∀ item ∈ items, item.WellFormed) (levels index : ℕ) :
    Bounded (build items levels index) (encodedBytes items levels index)
      fun n value => value.count ≤ n ∧ value.levels ≤ levels := by
  induction levels generalizing index with
  | zero => exact fun work h => ⟨Nat.succ_le_succ h.calls, h.nodes, h.valueBytes⟩
  | succ levels ih =>
    have hitem : (items.getD index .null).WellFormed := by
      rw [List.getD_eq_getElem?_getD]
      cases hitem : items[index]? with
      | none => trivial
      | some item => exact hwf item (List.mem_of_getElem? hitem)
    exact (bounded_item ih hitem).node

/-! ### The visits of the graph -/

section Visits

variable {objects : List ScannedObject} {colors colors' : List Color}

/-- The visits of the children in turn, until one fails. -/
def childVisits (visit : ℕ → List Color → Except PlistError (List Color))
    (visits : ℕ → List Color → ℕ) : List ℕ → List Color → ℕ
  | [], _ => 0
  | child :: children, colors => visits child colors +
    match visit child colors with
    | .ok colors => childVisits visit visits children colors
    | .error _ => 0

/-- How often `validateAcyclic` is called, this call included. -/
def acyclicVisits (objects : List ScannedObject) : ℕ → ℕ → List Color → ℕ
  | 0, _, _ => 1
  | levels + 1, index, colors =>
    match colors.getD index .white with
    | .white => 1 + childVisits (validateAcyclic objects levels) (acyclicVisits objects levels)
      (childrenOf objects index) (colors.set index .grey)
    | _ => 1

def graphVisits (objects : List ScannedObject) : ℕ :=
  childVisits (validateAcyclic objects (maxDepth + 1)) (acyclicVisits objects (maxDepth + 1))
    (List.range objects.length) (List.replicate objects.length .white)

/-- The names in the objects that were not visited yet. -/
def waiting : List ScannedObject → List Color → ℕ
  | object :: objects, color :: colors =>
    (if color = .white then object.children.length else 0) + waiting objects colors
  | _, _ => 0

/-- The visits were paid by one for each visit that was asked for and by the names in the objects that
were met. -/
def Paid (objects : List ScannedObject) (visits asked : ℕ) (colors : List Color) :
    Except PlistError (List Color) → Prop
  | .ok colors' => colors'.length = colors.length ∧
    visits + waiting objects colors' ≤ asked + waiting objects colors
  | .error _ => visits ≤ asked + waiting objects colors

lemma waiting_set {color : Color} (hcolor : color ≠ .white) :
    waiting objects (colors.set index color) ≤ waiting objects colors := by
  induction objects generalizing colors index with
  | nil => exact le_rfl
  | cons object objects ih =>
    cases colors with
    | nil => exact le_rfl
    | cons first colors =>
      cases index with
      | zero =>
        rw [List.set_cons_zero, waiting, waiting, if_neg hcolor]
        omega
      | succ index => exact Nat.add_le_add_left ih _

lemma waiting_set_white (hlength : colors.length = objects.length)
    (hwhite : colors.getD index .white = .white) :
    (childrenOf objects index).length + waiting objects (colors.set index .grey) =
      waiting objects colors := by
  induction objects generalizing colors index with
  | nil => rfl
  | cons object objects ih =>
    cases colors with
    | nil => cases hlength
    | cons first colors =>
      cases index with
      | zero =>
        cases hwhite
        rw [List.set_cons_zero, waiting, waiting, if_neg (by decide), if_pos rfl, Nat.zero_add]
        rfl
      | succ index =>
        have hrest := ih (Nat.succ.inj hlength) hwhite
        rw [List.set_cons_succ, waiting, waiting, ← hrest]
        exact Nat.add_left_comm _ _ _

lemma Paid.le {visits asked : ℕ} {result : Except PlistError (List Color)}
    (h : Paid objects visits asked colors result) : visits ≤ asked + waiting objects colors := by
  cases result with
  | error e => exact h
  | ok colors' => exact le_trans (Nat.le_add_right _ _) h.2

lemma paid_children {visit : ℕ → List Color → Except PlistError (List Color)}
    (visits : ℕ → List Color → ℕ) (h : ∀ child colors, colors.length = objects.length →
      Paid objects (visits child colors) 1 colors (visit child colors)) (children : List ℕ)
    (hlength : colors.length = objects.length) :
    Paid objects (childVisits visit visits children colors) children.length colors
      (children.foldlM (fun colors child => visit child colors) colors) := by
  induction children generalizing colors with
  | nil => exact ⟨rfl, le_rfl⟩
  | cons child children ih =>
    have hfirst := h child colors hlength
    rw [List.foldlM_cons, childVisits, List.length_cons]
    cases hvisit : visit child colors with
    | error e =>
      have hle := hfirst.le
      show _ + 0 ≤ _
      omega
    | ok middle =>
      rw [hvisit] at hfirst
      obtain ⟨hsame, hpaid⟩ := hfirst
      have hrest := ih (hsame.trans hlength)
      show Paid _ _ _ _ (children.foldlM _ middle)
      dsimp only
      generalize children.foldlM (fun colors child => visit child colors) middle = result at hrest ⊢
      cases result with
      | error e =>
        have hle := hrest.le
        show _ ≤ _
        omega
      | ok colors' => exact ⟨hrest.1.trans hsame, by have := hrest.2; omega⟩

lemma paid_acyclic (levels index : ℕ) (hlength : colors.length = objects.length) :
    Paid objects (acyclicVisits objects levels index colors) 1 colors
      (validateAcyclic objects levels index colors) := by
  -- an object is white only once, and then it pays for the visits of its children
  induction levels generalizing index colors with
  | zero => exact Nat.le_add_right _ _
  | succ levels ih =>
    unfold acyclicVisits validateAcyclic
    cases hcolor : colors.getD index .white with
    | grey => exact Nat.le_add_right _ _
    | black => exact ⟨rfl, le_rfl⟩
    | white =>
      have hgrey : (colors.set index .grey).length = objects.length := by
        rw [List.length_set, hlength]
      have hwhite := waiting_set_white hlength hcolor
      have hpaid := paid_children (acyclicVisits objects levels)
        (fun child _ hlength => ih child hlength)
        (childrenOf objects index) hgrey
      dsimp only
      generalize (childrenOf objects index).foldlM (fun colors child =>
        validateAcyclic objects levels child colors) (colors.set index .grey) = result at hpaid ⊢
      cases result with
      | error e =>
        have hle := hpaid.le
        show _ ≤ _
        omega
      | ok colors' =>
        obtain ⟨hsame, hle⟩ := hpaid
        have hblack : waiting objects (colors'.set index .black) ≤ waiting objects colors' :=
          waiting_set (by decide)
        refine ⟨?_, ?_⟩
        · rw [List.length_set, hsame, List.length_set]
        · omega

lemma waiting_replicate (objects : List ScannedObject) :
    waiting objects (List.replicate objects.length .white) =
      (objects.map fun object => object.children.length).sum := by
  induction objects with
  | nil => rfl
  | cons object objects ih =>
    rw [List.length_cons, List.replicate_succ, waiting, if_pos rfl, ih]
    rfl

lemma graphVisits_le (objects : List ScannedObject) : graphVisits objects ≤
    objects.length + (objects.map fun object => object.children.length).sum := by
  have hpaid := paid_children (acyclicVisits objects (maxDepth + 1))
    (fun child _ hlength => paid_acyclic (maxDepth + 1) child hlength)
    (List.range objects.length) (List.length_replicate (a := Color.white))
  have hle := hpaid.le
  rwa [List.length_range, waiting_replicate] at hle

end Visits

/-! ### Documents -/

lemma references_le {width count total : ℕ} {extents : List Packet} {objects : List ScannedObject}
    (htotal : total ≤ maxReferences) (h : scanObjects width count extents total = .ok objects) :
    total + (objects.map fun object => object.children.length).sum ≤ maxReferences := by
  induction extents generalizing total objects with
  | nil =>
    cases h
    exact htotal
  | cons bytes extents ih =>
    obtain ⟨object, -, h⟩ := of_bind_ok h
    obtain ⟨hmax, h⟩ := of_ite_error_ok h
    obtain ⟨rest, hrest, h⟩ := of_bind_ok h
    cases h
    have hle := ih (not_lt.mp hmax) hrest
    rw [List.map_cons, List.sum_cons]
    omega

lemma placed_le {trailer : Trailer} {extents : List Packet}
    (h : placeObjects input = .ok (trailer, extents)) :
    extents.length ≤ maxObjects ∧ (extents.map List.length).sum ≤ maxPlistSize := by
  obtain ⟨hsize, hlong, -, htrailer, offsets, hcount, -, -, ⟨order, hperm, hcontiguous⟩, hforall⟩ :=
    placeObjects_inv h
  obtain ⟨-, -, hmax, -, -, hlength, -⟩ := readTrailer_inv hlong htrailer
  have hobjects := hforall.length_eq
  have hsum := hcontiguous.sum
  rw [(hperm.map Prod.snd).sum_eq, List.map_snd_zip (by rw [List.length_map, hobjects])] at hsum
  exact ⟨by omega, by omega⟩

/-- The value has at most so many nodes and levels and bytes, the top one being level one; and whether
or not there is a value, the visits of the graph and the calls of the builder are limited too.  What
the scan refuses is neither visited nor built, and the scan itself looks at the input at most once. -/
theorem decoding_stays_within_the_limits (input : Packet) : (∀ value, decode input = .ok value →
      value.count ≤ maxDecodedNodes ∧ value.levels ≤ maxDepth + 1 ∧
        ∃ trailer items offsets, Written input trailer items offsets ∧
          encodedBytes items (maxDepth + 1) trailer.topObject ≤ maxValueBytes) ∧
    (∀ trailer scan, scanDocument input = .ok (trailer, scan) →
      graphVisits scan.objects ≤ maxObjects + maxReferences ∧
        ∃ items offsets, Written input trailer items offsets ∧
          (build items (maxDepth + 1) trailer.topObject ⟨0, ⟨0, 0⟩⟩).2.Within 1 ∧
          (keysAreStrings scan.objects = true →
            decodeObject scan (maxDepth + 1) trailer.topObject ⟨0, 0⟩ =
              outcome (build items (maxDepth + 1) trailer.topObject ⟨0, ⟨0, 0⟩⟩))) ∧
    (∀ error, scanDocument input = .error error → decode input = .error error) ∧
    ∀ trailer extents, placeObjects input = .ok (trailer, extents) →
      extents.length ≤ maxObjects ∧ (extents.map List.length).sum ≤ maxPlistSize := by
  have hbounded {trailer : Trailer} {items : List Item} {offsets : List ℕ}
      (hwritten : Written input trailer items offsets) :=
    bounded_build (fun item hitem => (hwritten.wellFormed item hitem).1) (maxDepth + 1)
      trailer.topObject ⟨0, ⟨0, 0⟩⟩ ⟨le_rfl, Nat.zero_le _, Nat.zero_le _⟩
  refine ⟨fun value h => ?_, fun trailer scan hscan => ?_, fun error herror => ?_,
    fun trailer extents => placed_le⟩
  · obtain ⟨trailer, scan, colors, budget, hscan, hkeys, hgraph, hvalue⟩ := decode_inv h
    obtain ⟨items, offsets, hwritten, rfl⟩ := scanDocument_inv hscan
    obtain ⟨work, hbuild⟩ := hwritten.built h
    have hbound := hbounded hwritten
    rw [hbuild] at hbound
    obtain ⟨hwithin, hbytes, n, hn, hcount, hlevels⟩ := hbound
    have hnodes := hwithin.nodes
    have hvalueBytes := hwithin.valueBytes
    exact ⟨by omega, hlevels, trailer, items, offsets, hwritten, by omega⟩
  · obtain ⟨items, offsets, hwritten, rfl⟩ := scanDocument_inv hscan
    refine ⟨?_, items, offsets, hwritten, ?_, decodeObject_top hwritten⟩
    · obtain ⟨_, hplace, -⟩ := of_bind_ok hscan
      rw [scanDocument_written hwritten (placeObjects_inv hplace).1] at hscan
      obtain ⟨hmax, hscan⟩ := of_ite_error_ok hscan
      obtain ⟨objects, hobjects, hscan⟩ := of_bind_ok hscan
      cases hscan
      have hreferences := references_le (Nat.zero_le _) hobjects
      have hvisits := graphVisits_le (items.map Item.scanned)
      rw [List.length_map, hwritten.count] at hvisits
      dsimp only
      omega
    · have hbound := hbounded hwritten
      generalize build items (maxDepth + 1) trailer.topObject ⟨0, ⟨0, 0⟩⟩ = run at hbound ⊢
      obtain ⟨e | value, work⟩ := run
      · exact hbound
      · exact Work.Within.spare hbound.1
  · rw [decode, herror]
    rfl

theorem sharedDocument_stays_within_the_limits : ∃ trailer scan,
    scanDocument sharedDocument = .ok (trailer, scan) ∧
      graphVisits scan.objects ≤ maxObjects + maxReferences ∧
      (Value.dictionary [("a", .array [.null, .null])]).count ≤ maxDecodedNodes := by
  obtain ⟨trailer, scan, -, -, hscan, -⟩ := decode_inv decode_sharedDocument
  obtain ⟨hvalue, hwork, -⟩ := decoding_stays_within_the_limits sharedDocument
  exact ⟨trailer, scan, hscan, (hwork trailer scan hscan).1, (hvalue _ decode_sharedDocument).1⟩

end T1Bridge.Wire
