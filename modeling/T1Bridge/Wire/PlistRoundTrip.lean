import Mathlib.Data.String.Basic
import T1Bridge.Wire.PlistEncode

/-! # Encoding and decoding

`Value.objects` is the list of objects a value is numbered as, each value before those below it.
The encoder produces this list, and the decoder reads the value back from it: the numbers only grow
on the way down, the keys are strings, and no budget of the decoder is smaller than what the encoder
allows. -/

namespace T1Bridge.Wire

open Nat (add_assoc sub_add_cancel succ_le_succ zero_le)
open List (append_assoc getElem?_map length_append length_cons length_map length_singleton map_cons
  mem_cons mem_cons_self mem_map)
open Except (of_ite_error_ok ok_bind)

variable {entry : ℕ × ℕ} {entries : List (String × Value)} {charged : Encoder} {key : String}
  {object : EncodedObject} {budget : DecodeBudget} {start : ℕ}

/-! ### The objects of a value -/

mutual

/-- How many objects a value takes. -/
def Value.count : Value → ℕ
  | .array values => 1 + countAll values
  | .dictionary entries => 1 + countEntries entries
  | _ => 1

def countAll : List Value → ℕ
  | [] => 0
  | value :: values => value.count + countAll values

def countEntries : List (String × Value) → ℕ
  | [] => 0
  | (_, value) :: entries => 1 + value.count + countEntries entries

end

mutual

/-- How many levels of objects a value takes. -/
def Value.levels : Value → ℕ
  | .array values => 1 + levelsAll values
  | .dictionary entries => 1 + levelsEntries entries
  | _ => 1

def levelsAll : List Value → ℕ
  | [] => 0
  | value :: values => max value.levels (levelsAll values)

def levelsEntries : List (String × Value) → ℕ
  | [] => 0
  | (_, value) :: entries => max value.levels (levelsEntries entries)

end

mutual

/-- The keys of every dictionary are in order, each of them once. -/
def Value.Ordered : Value → Prop
  | .array values => OrderedAll values
  | .dictionary entries => (entries.map Prod.fst).Pairwise (· < ·) ∧ OrderedEntries entries
  | _ => True

def OrderedAll : List Value → Prop
  | [] => True
  | value :: values => value.Ordered ∧ OrderedAll values

def OrderedEntries : List (String × Value) → Prop
  | [] => True
  | (_, value) :: entries => value.Ordered ∧ OrderedEntries entries

end

/-- The numbers of the elements of an array. -/
def childIndices : ℕ → List Value → List ℕ
  | _, [] => []
  | start, value :: values => start :: childIndices (start + value.count) values

/-- The numbers of the keys and values of a dictionary. -/
def entryIndices : ℕ → List (String × Value) → List (ℕ × ℕ)
  | _, [] => []
  | start, (_, value) :: entries =>
    (start, start + 1) :: entryIndices (start + 1 + value.count) entries

mutual

/-- The objects of a value whose number is `start`. -/
def Value.objects : Value → ℕ → List EncodedObject
  | .null, _ => [.null]
  | .boolean value, _ => [.boolean value]
  | .integer value, _ => [.integer value]
  | .data value, _ => [.data value]
  | .string value, _ => [.string value]
  | .array values, start => .array (childIndices (start + 1) values) :: objectsAll values (start + 1)
  | .dictionary entries, start =>
    .dictionary ((entryIndices (start + 1) entries).map Prod.fst)
      ((entryIndices (start + 1) entries).map Prod.snd) :: objectsEntries entries (start + 1)

def objectsAll : List Value → ℕ → List EncodedObject
  | [], _ => []
  | value :: values, start => value.objects start ++ objectsAll values (start + value.count)

def objectsEntries : List (String × Value) → ℕ → List EncodedObject
  | [], _ => []
  | (key, value) :: entries, start =>
    .string key :: (value.objects (start + 1) ++ objectsEntries entries (start + 1 + value.count))

end

mutual

theorem length_objects : ∀ (value : Value) (start : ℕ), (value.objects start).length = value.count
  | .null, _ | .boolean _, _ | .integer _, _ | .data _, _ | .string _, _ => rfl
  | .array values, start => by
    rw [Value.objects, length_cons, length_objectsAll values, Value.count, Nat.add_comm]
  | .dictionary entries, start => by
    rw [Value.objects, length_cons, length_objectsEntries entries, Value.count, Nat.add_comm]

theorem length_objectsAll : ∀ (values : List Value) (start : ℕ),
    (objectsAll values start).length = countAll values
  | [], _ => rfl
  | value :: values, start => by
    rw [objectsAll, length_append, length_objects value, length_objectsAll values, countAll]

theorem length_objectsEntries : ∀ (entries : List (String × Value)) (start : ℕ),
    (objectsEntries entries start).length = countEntries entries
  | [], _ => rfl
  | (key, value) :: entries, start => by
    rw [objectsEntries, length_cons, length_append, length_objects value,
      length_objectsEntries entries, countEntries]
    omega

end

lemma length_childIndices (start : ℕ) (values : List Value) :
    (childIndices start values).length = values.length := by
  induction values generalizing start with
  | nil => rfl
  | cons value values ih => rw [childIndices, length_cons, length_cons, ih]

lemma length_entryIndices (start : ℕ) (entries : List (String × Value)) :
    (entryIndices start entries).length = entries.length := by
  induction entries generalizing start with
  | nil => rfl
  | cons entry entries ih => rw [entryIndices, length_cons, length_cons, ih]

lemma count_pos (value : Value) : 1 ≤ value.count := by
  cases value <;> simp [Value.count]

lemma levels_pos (value : Value) : 1 ≤ value.levels := by
  cases value <;> simp [Value.levels]

/-! ### The encoder numbers these objects -/

def EncodedObject.referenceCount : EncodedObject → ℕ
  | .array references => references.length
  | .dictionary keys values => keys.length + values.length
  | _ => 0

variable (objects : List EncodedObject)

def referencesOf : ℕ := (objects.map EncodedObject.referenceCount).sum

/-- The bytes that an object is charged for. -/
def EncodedObject.byteCount : EncodedObject → ℕ
  | .data value => value.length
  | .string value => value.utf8ByteSize
  | _ => 0

def bytesOf : ℕ := (objects.map EncodedObject.byteCount).sum

namespace Encoder

variable (e : Encoder)

/-- The encoder after these objects. -/
def extend (added : List EncodedObject) : Encoder :=
  ⟨e.objects ++ added, e.references + referencesOf added, e.valueBytes + bytesOf added⟩

/-- The encoder while the objects below an object are numbered: its place is kept. -/
def opened (object : EncodedObject) : Encoder :=
  ⟨e.objects ++ [.null], e.references + object.referenceCount, e.valueBytes + object.byteCount⟩

/-- The objects, which take this many levels, are within the limits. -/
@[mk_iff]
structure Admits (depth levels : ℕ) (added : List EncodedObject) : Prop where
  depth : depth + levels ≤ maxDepth + 1
  objects : e.objects.length + added.length ≤ maxObjects
  references : e.references + referencesOf added ≤ maxReferences
  valueBytes : e.valueBytes + bytesOf added ≤ maxValueBytes
  fine : ∀ object ∈ added, object.InRange ∧ object.Fits

/-- The result is `out` exactly when `p` holds, and else an error. -/
inductive Decides {ρ : Type} (p : Prop) (out : ρ) : Except PlistError ρ → Prop
  | holds (h : p) : Decides p out (.ok out)
  | fails (h : ¬ p) (error : PlistError) : Decides p out (.error error)

lemma check_decides {p c : Prop} [Decidable c] {ρ : Type} {out : ρ}
    {next : Encoder → Except PlistError ρ} (hc : p → ¬ c)
    (hnext : ¬ c → Decides p out (next charged)) :
    Decides p out (match (if c then .error .limitExceeded else .ok charged : Except PlistError Encoder)
      with | .error error => .error error | .ok e => next e) := by
  split_ifs with h
  · exact .fails (fun hp => hc hp h) _
  · exact hnext h

variable {e} {added added' : List EncodedObject} {depth levels levels' : ℕ} {out : ℕ × Encoder}

lemma admits_cons : e.Admits depth (1 + levels) (object :: added) ↔
    (object.InRange ∧ object.Fits) ∧ (e.opened object).Admits (depth + 1) levels added := by
  have hr : referencesOf (object :: added) = object.referenceCount + referencesOf added := rfl
  have hb : bytesOf (object :: added) = object.byteCount + bytesOf added := rfl
  simp only [admits_iff, opened, length_append, length_cons, List.length_nil, hr, hb,
    List.forall_mem_cons]
  constructor
  · rintro ⟨h1, h2, h3, h4, hobject, hadded⟩
    exact ⟨hobject, by omega, by omega, by omega, by omega, hadded⟩
  · rintro ⟨hobject, h1, h2, h3, h4, hadded⟩
    exact ⟨by omega, by omega, by omega, by omega, hobject, hadded⟩

lemma admits_append : e.Admits depth (max levels levels') (added ++ added') ↔
    e.Admits depth levels added ∧ (e.extend added).Admits depth levels' added' := by
  simp only [admits_iff, extend, length_append, referencesOf, bytesOf, List.map_append,
    List.sum_append, List.forall_mem_append]
  constructor
  · rintro ⟨h1, h2, h3, h4, hadded, hadded'⟩
    exact ⟨⟨by omega, by omega, by omega, by omega, hadded⟩, by omega, by omega, by omega,
      by omega, hadded'⟩
  · rintro ⟨⟨h1, -, -, -, hadded⟩, h1', h2, h3, h4, hadded'⟩
    exact ⟨by omega, by omega, by omega, by omega, hadded, hadded'⟩

lemma admits_key : e.Admits depth levels (.string key :: added) ↔
    e.Admits depth 0 [.string key] ∧ (e.extend [.string key]).Admits depth levels added := by
  have h := @admits_append e [.string key] added depth 0 levels
  rwa [Nat.zero_max] at h

lemma place_opened : ((e.opened object).extend added).place e.objects.length object =
    e.extend (object :: added) := by
  simp [place, opened, extend, referencesOf, bytesOf, Nat.add_assoc]

lemma extend_extend : (e.extend added).extend added' = e.extend (added ++ added') := by
  simp [extend, referencesOf, bytesOf, Nat.add_assoc]

lemma Admits.after (h : e.Admits depth levels added) : (e.extend added).Admits depth 0 [] := by
  refine ⟨by have := h.depth; omega, ?_, h.references, h.valueBytes, by simp⟩
  rw [extend, length_append]
  exact h.objects

lemma extend_nil (e : Encoder) : e.extend [] = e := by
  rw [extend, List.append_nil]
  rfl

lemma opened_admits (hdepth : depth ≤ maxDepth) (hlength : e.objects.length < maxObjects)
    (hreferences : e.references + object.referenceCount ≤ maxReferences)
    (hbytes : e.valueBytes + object.byteCount ≤ maxValueBytes) :
    (e.opened object).Admits (depth + 1) 0 [] := by
  refine ⟨succ_le_succ hdepth, ?_, hreferences, hbytes, by simp⟩
  rw [opened, length_append]
  exact hlength

lemma reserve_decides {value : Value} {next : ℕ → Encoder → Except PlistError (ℕ × Encoder)}
    (hnext : depth ≤ maxDepth → e.objects.length < maxObjects →
      Decides (e.Admits depth value.levels (value.objects e.objects.length)) out
        (next e.objects.length (e.push .null))) :
    Decides (e.Admits depth value.levels (value.objects e.objects.length)) out
      (e.reserve depth next) := by
  unfold reserve
  split
  · refine .fails (fun h => ?_) _
    have hdepth := h.depth
    have hlength := h.objects
    have := levels_pos value
    have := count_pos value
    rw [length_objects] at hlength
    omega
  · exact hnext (by omega) (by omega)

lemma leaf_decides (hadded : added = [object]) (hlevels : levels = 1)
    (hcharged : charged = e.opened object) (hopened : (e.opened object).Admits (depth + 1) 0 [])
    (hobject : object.InRange ∧ object.Fits) :
    Decides (e.Admits depth levels added) (e.objects.length, e.extend added)
      (.ok (e.objects.length, charged.place e.objects.length object)) := by
  subst hadded hlevels hcharged
  rw [← place_opened, extend_nil]
  exact .holds (admits_cons.mpr ⟨hobject, hopened⟩)

lemma length_opened : (e.opened object).objects.length = e.objects.length + 1 := by
  rw [opened, length_append, length_singleton]

/-- An object is charged for its references before those below it are numbered. -/
lemma container_decides {count : ℕ}
    {next : Encoder → Except PlistError (ℕ × Encoder)} (hcount : object.referenceCount = count)
    (hbytes : object.byteCount = 0) (he : e.Admits depth 0 []) (hdepth : depth ≤ maxDepth)
    (hlength : e.objects.length < maxObjects) (hnext : (e.opened object).Admits (depth + 1) 0 [] →
      Decides (e.Admits depth (1 + levels) (object :: added)) out (next (e.opened object))) :
    Decides (e.Admits depth (1 + levels) (object :: added)) out
      (match (e.push .null).chargeReferences count with
      | .error error => .error error
      | .ok e => next e) := by
  subst hcount
  refine check_decides (fun h => ?_) fun hfew => ?_
  · have := (admits_cons.mp h).2.references
    rw [opened] at this
    exact not_lt.mpr (le_trans (Nat.le_add_right _ _) this)
  have hopened := opened_admits hdepth hlength (not_lt.mp hfew) (by rw [hbytes]; exact he.valueBytes)
  have heq : ({ e.push .null with references := e.references + object.referenceCount } : Encoder) =
      e.opened object := by
    rw [opened, hbytes]
    rfl
  exact heq ▸ hnext hopened

mutual

theorem add_decides : ∀ (value : Value) {depth : ℕ} {e : Encoder}, e.Admits depth 0 [] →
    Decides (e.Admits depth value.levels (value.objects e.objects.length))
      (e.objects.length, e.extend (value.objects e.objects.length)) (add value depth e)
  | .null, depth, e, he | .boolean _, depth, e, he => by
    unfold add
    refine reserve_decides fun hdepth hlength => ?_
    refine leaf_decides rfl rfl rfl (opened_admits hdepth hlength he.references he.valueBytes) ?_
    exact ⟨trivial, trivial⟩
  | .integer value, depth, e, he => by
    unfold add
    refine reserve_decides fun hdepth hlength => ?_
    split
    · next hrange =>
      refine leaf_decides rfl rfl rfl (opened_admits hdepth hlength he.references he.valueBytes) ?_
      exact ⟨hrange, trivial⟩
    · next hrange => exact .fails (fun h => hrange (h.fine _ List.mem_cons_self).1) _
  | .data _, depth, e, he | .string _, depth, e, he => by
    unfold add
    refine reserve_decides fun hdepth hlength => ?_
    refine check_decides (fun h => not_lt.mpr h.valueBytes) fun hbytes => ?_
    refine leaf_decides rfl rfl rfl
      (opened_admits hdepth hlength he.references (not_lt.mp hbytes)) ?_
    exact ⟨trivial, trivial⟩
  | .array values, depth, e, he => by
    unfold add
    refine reserve_decides fun hdepth hlength => ?_
    rw [Value.levels, Value.objects]
    refine container_decides (length_childIndices _ _) rfl he hdepth hlength fun hopened => ?_
    have hall := addAll_decides values hopened
    rw [length_opened] at hall
    generalize addAll values (depth + 1) _ = r at hall
    cases hall with
    | fails h error => exact .fails (fun hnode => h (admits_cons.mp hnode).2) error
    | holds h =>
      dsimp only
      rw [place_opened]
      refine .holds (admits_cons.mpr ⟨⟨trivial, ?_⟩, h⟩)
      exact le_trans (Nat.le_add_left _ _) hopened.references
  | .dictionary entries, depth, e, he => by
    have hcount := length_entryIndices (e.objects.length + 1) entries
    unfold add
    refine reserve_decides fun hdepth hlength => ?_
    rw [Value.levels, Value.objects]
    refine container_decides ?_ rfl he hdepth hlength fun hopened => ?_
    · rw [EncodedObject.referenceCount, length_map, length_map, hcount, Nat.mul_two]
    have hall := addEntries_decides entries hopened
    rw [length_opened] at hall
    generalize addEntries entries (depth + 1) _ = r at hall
    cases hall with
    | fails h error => exact .fails (fun hnode => h (admits_cons.mp hnode).2) error
    | holds h =>
      dsimp only
      rw [place_opened]
      refine .holds (admits_cons.mpr ⟨⟨trivial, by rw [length_map, length_map], ?_⟩, h⟩)
      have := hopened.references
      simp only [opened, EncodedObject.referenceCount, length_map] at this ⊢
      omega

theorem addAll_decides : ∀ (values : List Value) {depth : ℕ} {e : Encoder}, e.Admits depth 0 [] →
    Decides (e.Admits depth (levelsAll values) (objectsAll values e.objects.length))
      (childIndices e.objects.length values, e.extend (objectsAll values e.objects.length))
      (addAll values depth e)
  | [], depth, e, he => by
    rw [objectsAll, extend_nil]
    exact .holds he
  | value :: values, depth, e, he => by
    have hstart : (e.extend (value.objects e.objects.length)).objects.length =
        e.objects.length + value.count := by rw [extend, length_append, length_objects]
    unfold addAll
    rw [levelsAll, objectsAll, ← extend_extend, childIndices]
    have hvalue := add_decides value he
    generalize add value depth e = r at hvalue
    cases hvalue with
    | fails h error => exact .fails (fun hall => h (admits_append.mp hall).1) error
    | holds h =>
      have hrest := addAll_decides values h.after
      rw [hstart] at hrest
      dsimp only
      generalize addAll values depth _ = r at hrest
      cases hrest with
      | fails h' error => exact .fails (fun hall => h' (admits_append.mp hall).2) error
      | holds h' => exact .holds (admits_append.mpr ⟨h, h'⟩)

theorem addEntries_decides : ∀ (entries : List (String × Value)) {depth : ℕ} {e : Encoder},
    e.Admits depth 0 [] →
    Decides (e.Admits depth (levelsEntries entries) (objectsEntries entries e.objects.length))
      ((entryIndices e.objects.length entries).map Prod.fst,
        (entryIndices e.objects.length entries).map Prod.snd,
        e.extend (objectsEntries entries e.objects.length)) (addEntries entries depth e)
  | [], depth, e, he => by
    rw [objectsEntries, extend_nil]
    exact .holds he
  | (key, value) :: entries, depth, e, he => by
    have hstart : (e.extend [.string key]).objects.length = e.objects.length + 1 := length_append
    unfold addEntries
    rw [levelsEntries, objectsEntries, entryIndices]
    refine check_decides (fun h => not_lt.mpr (admits_key.mp h).1.valueBytes) fun hbytes => ?_
    split_ifs with hroom
    · have hfull : ¬ e.objects.length + 1 ≤ maxObjects := not_le.mpr (Nat.lt_succ_of_le hroom)
      exact .fails (fun h => hfull (admits_key.mp h).1.objects) _
    have hkey : e.Admits depth 0 [.string key] :=
      ⟨he.depth, not_le.mp hroom, he.references, not_lt.mp hbytes,
        List.forall_mem_singleton.mpr ⟨trivial, trivial⟩⟩
    have hvalue := add_decides value hkey.after
    rw [hstart] at hvalue
    generalize hcharged : push { e with valueBytes := e.valueBytes + key.utf8ByteSize } _ = e1
    obtain rfl : e1 = e.extend [.string key] := hcharged.symm
    generalize add value depth (e.extend [.string key]) = r at hvalue
    cases hvalue with
    | fails h error =>
      exact .fails (fun hall => h (admits_append.mp (admits_key.mp hall).2).1) error
    | holds h =>
      have hrest := addEntries_decides entries h.after
      rw [extend, length_append, length_objects, hstart, ← extend] at hrest
      dsimp only
      generalize addEntries entries depth _ = r at hrest
      cases hrest with
      | fails h' error =>
        exact .fails (fun hall => h' (admits_append.mp (admits_key.mp hall).2).2) error
      | holds h' =>
        rw [extend_extend, extend_extend]
        exact .holds (admits_key.mpr ⟨hkey, admits_append.mpr ⟨h, h'⟩⟩)

end

end Encoder

/-! ### Lists that hold the objects of a value -/

/-- The list has these objects from `start` on. -/
def Holds (objects : List EncodedObject) (start : ℕ) (added : List EncodedObject) : Prop :=
  added <+: objects.drop start

section Holds

variable {objects} {added added' : List EncodedObject}

lemma Holds.head (h : Holds objects start (object :: added)) : objects[start]? = some object := by
  obtain ⟨rest, hrest⟩ := h
  have hzero : (objects.drop start)[0]? = some object := by rw [← hrest]; rfl
  rwa [List.getElem?_drop, Nat.add_zero] at hzero

lemma Holds.left (h : Holds objects start (added ++ added')) : Holds objects start added :=
  (List.prefix_append added added').trans h

lemma Holds.right (h : Holds objects start (added ++ added')) :
    Holds objects (start + added.length) added' := by
  obtain ⟨rest, hrest⟩ := h
  refine ⟨rest, ?_⟩
  rw [← List.drop_drop, ← hrest, append_assoc, List.drop_left]

lemma Holds.tail (h : Holds objects start (object :: added)) : Holds objects (start + 1) added := by
  have hboth : Holds objects start ([object] ++ added) := h
  exact hboth.right

end Holds

/-! ### Decoding -/

/-- What an object costs when it is decoded. -/
def Item.charge : Item → ℕ
  | .data _ value => value.length
  | .ascii _ text => text.length
  | .utf16 _ units => units.length * 2
  | _ => 0

def chargesOf (objects : List EncodedObject) : ℕ :=
  (objects.map fun object => (itemOf object).charge).sum

lemma chargesOf_append (objects objects' : List EncodedObject) :
    chargesOf (objects ++ objects') = chargesOf objects + chargesOf objects' := by
  simp only [chargesOf, List.map_append, List.sum_append]

namespace DecodeBudget

/-- The budget after these objects. -/
def spend (budget : DecodeBudget) (objects : List EncodedObject) : DecodeBudget :=
  ⟨budget.nodes + objects.length, budget.valueBytes + chargesOf objects⟩

/-- The budget is enough for these objects. -/
def Allows (budget : DecodeBudget) (objects : List EncodedObject) : Prop :=
  budget.nodes + objects.length ≤ maxDecodedNodes ∧
    budget.valueBytes + chargesOf objects ≤ maxValueBytes

variable {objects} {objects' : List EncodedObject}

lemma spend_append : (budget.spend objects).spend objects' = budget.spend (objects ++ objects') := by
  simp only [spend, chargesOf_append, length_append, add_assoc]

lemma Allows.left (h : budget.Allows (objects ++ objects')) : budget.Allows objects := by
  rw [Allows, chargesOf_append, length_append] at h
  exact ⟨by omega, by omega⟩

lemma Allows.right (h : budget.Allows (objects ++ objects')) :
    (budget.spend objects).Allows objects' := by
  rw [Allows, chargesOf_append, length_append] at h
  exact ⟨by rw [spend]; dsimp only; omega, by rw [spend]; dsimp only; omega⟩

lemma Allows.tail (h : budget.Allows (object :: objects)) :
    (budget.spend [object]).Allows objects := by
  have hboth : budget.Allows ([object] ++ objects) := h
  exact hboth.right

lemma chargeBytes_ok (h : budget.Allows [object]) (nodes : ℕ) :
    chargeBytes ⟨nodes, budget.valueBytes⟩ (itemOf object).charge =
      .ok ⟨nodes, budget.valueBytes + (itemOf object).charge⟩ := by
  have hbytes : budget.valueBytes + (itemOf object).charge ≤ maxValueBytes := h.2
  exact if_neg (not_lt.mpr hbytes)

end DecodeBudget

variable {value : Value} {output : Packet} {item : Item} {objects} {width : ℕ}

lemma insertEntry_last {dictionary : List (String × Value)}
    (h : ∀ entry ∈ dictionary, entry.1 < key) :
    insertEntry key value dictionary = some (dictionary ++ [(key, value)]) := by
  induction dictionary with
  | nil => rfl
  | cons entry dictionary ih =>
    have hlt := h entry mem_cons_self
    rw [insertEntry, if_neg (lt_asymm hlt), if_neg (ne_of_gt hlt),
      ih fun other hother => h other (List.mem_cons_of_mem _ hother)]
    rfl

section Decoding

variable (hwf : ∀ object ∈ objects, (itemOf object).WellFormed) {levels index : ℕ}

/-- The decoder on the objects of an encoder. -/
abbrev decoding (width : ℕ) (objects : List EncodedObject) (levels : ℕ) : ℕ → Decoding Value :=
  decodeObject (scanOf width (objects.map itemOf)) levels

include hwf

lemma decoding_step {added : List EncodedObject}
    (hobject : objects[index]? = some object) (hbudget : budget.Allows (object :: added)) :
    decoding width objects (levels + 1) index budget =
      (itemOf object).decode (decoding width objects levels)
        ⟨budget.nodes + 1, budget.valueBytes⟩ := by
  have hitems : ∀ item ∈ objects.map itemOf, item.WellFormed := by
    intro item hitem
    obtain ⟨object, hmem, rfl⟩ := mem_map.mp hitem
    exact hwf object hmem
  have hitem : (objects.map itemOf)[index]? = some (itemOf object) := by
    rw [getElem?_map, hobject]
    rfl
  have hnode : budget.chargeNode = .ok ⟨budget.nodes + 1, budget.valueBytes⟩ := by
    have hnodes := hbudget.1
    rw [length_cons] at hnodes
    exact if_neg (by omega)
  rw [decoding, decodeObject_item hitems levels hitem, ok_bind hnode]

lemma decoding_string {text : String} (hlevels : 1 ≤ levels)
    (hobject : objects[index]? = some (.string text)) (hbudget : budget.Allows [.string text]) :
    decoding width objects levels index budget =
      .ok (.string text, budget.spend [.string text]) := by
  obtain ⟨levels, rfl⟩ : ∃ n, levels = n + 1 := ⟨levels - 1, by omega⟩
  rw [decoding_step hwf hobject hbudget]
  have hspend : budget.spend [.string text] =
      ⟨budget.nodes + 1, budget.valueBytes + (itemOf (.string text)).charge⟩ := rfl
  have hcharge := DecodeBudget.chargeBytes_ok hbudget (budget.nodes + 1)
  rw [hspend]
  rw [itemOf] at hcharge ⊢
  split at hcharge
  · next hascii =>
    rw [Item.charge] at hcharge
    rw [if_pos hascii, Item.decode, Item.charge, ok_bind hcharge, ok_bind (decodeText_toUTF8 text)]
  · next hwide =>
    rw [Item.charge] at hcharge
    rw [if_neg hwide, Item.decode, Item.charge, ok_bind hcharge, ok_bind (textOf_encodeUtf16 text)]

-- The lists of children need `hwf` only for the values in them.
set_option linter.unusedSectionVars false in
mutual

theorem decoding_value : ∀ (value : Value) {levels start : ℕ} {budget : DecodeBudget},
    value.Ordered → value.levels ≤ levels → Holds objects start (value.objects start) →
    budget.Allows (value.objects start) →
      decoding width objects levels start budget = .ok (value, budget.spend (value.objects start))
  | .null, levels, start, budget, _, hlevels, hholds, hbudget
  | .boolean _, levels, start, budget, _, hlevels, hholds, hbudget
  | .integer _, levels, start, budget, _, hlevels, hholds, hbudget => by
    obtain ⟨levels, rfl⟩ : ∃ n, levels = n + 1 := ⟨levels - 1, (sub_add_cancel hlevels).symm⟩
    rw [decoding_step hwf hholds.head hbudget]
    rfl
  | .data value, levels, start, budget, _, hlevels, hholds, hbudget => by
    obtain ⟨levels, rfl⟩ : ∃ n, levels = n + 1 := ⟨levels - 1, (sub_add_cancel hlevels).symm⟩
    rw [decoding_step hwf hholds.head hbudget]
    exact ok_bind (DecodeBudget.chargeBytes_ok hbudget (budget.nodes + 1)) _
  | .string value, levels, start, budget, _, hlevels, hholds, hbudget =>
    decoding_string hwf hlevels hholds.head hbudget
  | .array values, levels, start, budget, hordered, hlevels, hholds, hbudget => by
    rw [Value.levels] at hlevels
    obtain ⟨levels, rfl⟩ : ∃ n, levels = n + 1 := ⟨levels - 1, by omega⟩
    have hbelow : levelsAll values ≤ levels := by omega
    have hrest := decoding_values values hordered hbelow hholds.tail hbudget.tail
    rw [DecodeBudget.spend_append] at hrest
    rw [decoding_step hwf hholds.head hbudget]
    exact ok_bind hrest _
  | .dictionary entries, levels, start, budget, hordered, hlevels, hholds, hbudget => by
    obtain ⟨hkeys, hentries⟩ := hordered
    rw [Value.levels] at hlevels
    obtain ⟨levels, rfl⟩ : ∃ n, levels = n + 1 := ⟨levels - 1, by omega⟩
    have hbelow : levelsEntries entries ≤ levels := by omega
    have hrest := decoding_entries entries [] hentries hkeys hbelow hholds.tail hbudget.tail
    rw [DecodeBudget.spend_append] at hrest
    rw [decoding_step hwf hholds.head hbudget, itemOf, Item.decode, List.zip_map', List.map_id']
    exact ok_bind hrest _

theorem decoding_values : ∀ (values : List Value) {levels start : ℕ} {budget : DecodeBudget},
    OrderedAll values → levelsAll values ≤ levels → Holds objects start (objectsAll values start) →
    budget.Allows (objectsAll values start) →
      decodeChildren (decoding width objects levels) (childIndices start values) budget =
        .ok (values, budget.spend (objectsAll values start))
  | [], _, _, _, _, _, _, _ => rfl
  | value :: values, levels, start, budget, hordered, hlevels, hholds, hbudget => by
    obtain ⟨hvalue, hvalues⟩ := hordered
    obtain ⟨hlevel, hlevels⟩ := max_le_iff.mp hlevels
    have hright := hholds.right
    rw [length_objects] at hright
    have hfirst := decoding_value value hvalue hlevel hholds.left hbudget.left
    have hrest := decoding_values values hvalues hlevels hright hbudget.right
    rw [childIndices, decodeChildren, ok_bind hfirst]
    dsimp only
    rw [ok_bind hrest]
    dsimp only
    rw [DecodeBudget.spend_append]
    rfl

theorem decoding_entries : ∀ (entries dictionary : List (String × Value)) {levels start : ℕ}
    {budget : DecodeBudget}, OrderedEntries entries →
    ((dictionary ++ entries).map Prod.fst).Pairwise (· < ·) → levelsEntries entries ≤ levels →
    Holds objects start (objectsEntries entries start) →
    budget.Allows (objectsEntries entries start) →
      decodeEntries (decoding width objects levels) (entryIndices start entries) dictionary budget =
        .ok (dictionary ++ entries, budget.spend (objectsEntries entries start))
  | [], dictionary, _, _, _, _, _, _, _, _ => by
    rw [List.append_nil]
    rfl
  | (key, value) :: entries, dictionary, levels, start, budget, hordered, hkeys, hlevels, hholds,
      hbudget => by
      obtain ⟨hvalue, hentries⟩ := hordered
      obtain ⟨hlevel, hlevels⟩ := max_le_iff.mp hlevels
      have hone : 1 ≤ levels := le_trans (levels_pos value) hlevel
      have hright := hholds.tail.right
      rw [length_objects] at hright
      have hsplit : dictionary ++ (key, value) :: entries = dictionary ++ [(key, value)] ++ entries := by
        rw [append_assoc]
        rfl
      have hbefore : ∀ entry ∈ dictionary, entry.1 < key := by
        rw [List.map_append, List.pairwise_append] at hkeys
        intro entry hentry
        exact hkeys.2.2 entry.1 (List.mem_map_of_mem hentry) key mem_cons_self
      rw [hsplit] at hkeys ⊢
      have hkey : decoding width objects levels start budget =
          .ok (.string key, budget.spend [.string key]) :=
        decoding_string hwf hone hholds.head hbudget.left
      have hfirst := decoding_value value hvalue hlevel hholds.tail.left hbudget.tail.left
      have hrest := decoding_entries entries _ hentries hkeys hlevels hright hbudget.tail.right
      rw [entryIndices, decodeEntries, ok_bind hkey]
      dsimp only
      rw [ok_bind hfirst]
      dsimp only
      rw [insertEntry_last hbefore]
      dsimp only
      rw [hrest, DecodeBudget.spend_append, DecodeBudget.spend_append, append_assoc]
      rfl

end

end Decoding

/-! ### The graph of the objects -/

/-- What the scan says about the objects. -/
abbrev scannedOf (objects : List EncodedObject) : List ScannedObject :=
  (objects.map itemOf).map Item.scanned

/-- The objects of a range name only later objects of it, and strings as keys, and no path among
them has `levels` edges. -/
structure Placed (objects : List EncodedObject) (levels lo hi : ℕ) : Prop where
  later : ∀ index, lo ≤ index → index < hi →
    ∀ child ∈ childrenOf (scannedOf objects) index, index < child ∧ child < hi
  shallow : ∀ index, lo ≤ index → index < hi → Shallow (scannedOf objects) levels index
  keys : ∀ index object, lo ≤ index → index < hi → objects[index]? = some object →
    ∀ key ∈ (itemOf object).keys, ∃ text, objects[key]? = some (.string text)

section Placed

variable {levels levels' lo middle hi : ℕ}

lemma childrenOf_scannedOf {index : ℕ} (h : objects[index]? = some object) :
    childrenOf (scannedOf objects) index = (itemOf object).children := by
  rw [childrenOf, getElem?_map, getElem?_map, h]
  rfl

lemma Placed.empty (objects : List EncodedObject) (levels lo : ℕ) : Placed objects levels lo lo :=
  ⟨fun _ _ _ => by omega, fun _ _ _ => by omega, fun _ _ _ _ => by omega⟩

lemma Placed.mono (h : Placed objects levels lo hi) (hle : levels ≤ levels') :
    Placed objects levels' lo hi :=
  ⟨h.later, fun index hlo hhi => (h.shallow index hlo hhi).mono hle, h.keys⟩

lemma Placed.append (h : Placed objects levels lo middle) (h' : Placed objects levels middle hi)
    (hle : middle ≤ hi) : Placed objects levels lo hi := by
  refine ⟨fun index hlo hhi child hchild => ?_, fun index hlo hhi => ?_,
    fun index object hlo hhi hobject => ?_⟩
  · rcases lt_or_ge index middle with hlt | hge
    · obtain ⟨hlater, hchild⟩ := h.later index hlo hlt child hchild
      exact ⟨hlater, by omega⟩
    · exact h'.later index hge hhi child hchild
  · rcases lt_or_ge index middle with hlt | hge
    · exact h.shallow index hlo hlt
    · exact h'.shallow index hge hhi
  · rcases lt_or_ge index middle with hlt | hge
    · exact h.keys index object hlo hlt hobject
    · exact h'.keys index object hge hhi hobject

lemma Placed.cons (h : Placed objects levels (lo + 1) hi) (hobject : objects[lo]? = some object)
    (hchildren : ∀ child ∈ (itemOf object).children, lo < child ∧ child < hi)
    (hkeys : ∀ key ∈ (itemOf object).keys, ∃ text, objects[key]? = some (.string text)) :
    Placed objects (levels + 1) lo hi := by
  have hnamed := childrenOf_scannedOf hobject
  refine ⟨fun index hlo hhi child hchild => ?_, fun index hlo hhi => ?_,
    fun index other hlo hhi hother => ?_⟩
  · rcases Nat.eq_or_lt_of_le hlo with rfl | hlt
    · rw [hnamed] at hchild
      exact hchildren child hchild
    · exact h.later index hlt hhi child hchild
  · rcases Nat.eq_or_lt_of_le hlo with rfl | hlt
    · intro child hchild
      rw [hnamed] at hchild
      obtain ⟨hlater, hbefore⟩ := hchildren child hchild
      exact h.shallow child hlater hbefore
    · exact (h.shallow index hlt hhi).mono (Nat.le_succ levels)
  · rcases Nat.eq_or_lt_of_le hlo with rfl | hlt
    · cases hobject.symm.trans hother
      exact hkeys
    · exact h.keys index other hlt hhi hother

lemma Placed.leaf (hobject : objects[lo]? = some object) (hchildren : (itemOf object).children = [])
    (hkeys : (itemOf object).keys = []) (hlevels : 1 ≤ levels) :
    Placed objects levels lo (lo + 1) := by
  refine Placed.mono (Placed.cons (Placed.empty objects 0 _) hobject ?_ ?_) hlevels
  · rw [hchildren]
    exact nofun
  · rw [hkeys]
    exact nofun

lemma string_children (text : String) : (itemOf (.string text)).children = [] := by
  rw [itemOf]
  split <;> rfl

lemma string_keys (text : String) : (itemOf (.string text)).keys = [] := by
  rw [itemOf]
  split <;> rfl

lemma string_kind (text : String) : (itemOf (.string text)).kind = .string := by
  rw [itemOf]
  split <;> rfl

lemma childIndices_range {start child : ℕ} {values : List Value}
    (h : child ∈ childIndices start values) : start ≤ child ∧ child < start + countAll values := by
  induction values generalizing start with
  | nil => cases h
  | cons value values ih =>
    have hcount := count_pos value
    rw [countAll]
    rcases mem_cons.mp h with rfl | h
    · omega
    · have := ih h
      omega

lemma entryIndices_range (h : entry ∈ entryIndices start entries) :
    start ≤ entry.1 ∧ entry.1 < start + countEntries entries ∧ start ≤ entry.2 ∧
      entry.2 < start + countEntries entries := by
  induction entries generalizing start with
  | nil => cases h
  | cons first entries ih =>
    have hcount := count_pos first.2
    rw [countEntries]
    rcases mem_cons.mp h with rfl | h
    · omega
    · have := ih h
      omega

lemma entryIndices_keys (hholds : Holds objects start (objectsEntries entries start))
    (h : entry ∈ entryIndices start entries) : ∃ text, objects[entry.1]? = some (.string text) := by
  induction entries generalizing start with
  | nil => cases h
  | cons first entries ih =>
    rcases mem_cons.mp h with rfl | h
    · exact ⟨first.1, hholds.head⟩
    have hright := hholds.tail.right
    rw [length_objects] at hright
    exact ih hright h

mutual

theorem placed_value : ∀ (value : Value) {levels start : ℕ}, value.levels ≤ levels →
    Holds objects start (value.objects start) → Placed objects levels start (start + value.count)
  | .null, _, _, hlevels, hholds | .boolean _, _, _, hlevels, hholds
  | .integer _, _, _, hlevels, hholds | .data _, _, _, hlevels, hholds =>
    Placed.leaf hholds.head rfl rfl hlevels
  | .string text, _, _, hlevels, hholds =>
    Placed.leaf hholds.head (string_children text) (string_keys text) hlevels
  | .array values, levels, start, hlevels, hholds => by
    rw [Value.levels] at hlevels
    obtain ⟨levels, rfl⟩ : ∃ n, levels = n + 1 := ⟨levels - 1, by omega⟩
    have hbelow : levelsAll values ≤ levels := by omega
    have hrest := placed_values values hbelow hholds.tail
    rw [Value.count, ← add_assoc]
    exact hrest.cons hholds.head (fun child hchild => childIndices_range hchild) nofun
  | .dictionary entries, levels, start, hlevels, hholds => by
    rw [Value.levels] at hlevels
    obtain ⟨levels, rfl⟩ : ∃ n, levels = n + 1 := ⟨levels - 1, by omega⟩
    have hbelow : levelsEntries entries ≤ levels := by omega
    have hrest := placed_entries entries hbelow hholds.tail
    rw [Value.count, ← add_assoc]
    refine hrest.cons hholds.head (fun child hchild => ?_) (fun key hkey => ?_)
    · rcases List.mem_append.mp hchild with hchild | hchild
      · obtain ⟨entry, hentry, rfl⟩ := mem_map.mp hchild
        have hrange := entryIndices_range hentry
        exact ⟨hrange.1, hrange.2.1⟩
      · obtain ⟨entry, hentry, rfl⟩ := mem_map.mp hchild
        have hrange := entryIndices_range hentry
        exact hrange.2.2
    · obtain ⟨entry, hentry, rfl⟩ := mem_map.mp hkey
      exact entryIndices_keys hholds.tail hentry

theorem placed_values : ∀ (values : List Value) {levels start : ℕ}, levelsAll values ≤ levels →
    Holds objects start (objectsAll values start) →
      Placed objects levels start (start + countAll values)
  | [], levels, start, _, _ => Placed.empty objects levels start
  | value :: values, levels, start, hlevels, hholds => by
    obtain ⟨hlevel, hlevels⟩ := max_le_iff.mp hlevels
    have hright := hholds.right
    rw [length_objects] at hright
    have hfirst := placed_value value hlevel hholds.left
    have hrest := placed_values values hlevels hright
    rw [countAll, ← add_assoc]
    exact hfirst.append hrest (Nat.le_add_right _ _)

theorem placed_entries : ∀ (entries : List (String × Value)) {levels start : ℕ},
    levelsEntries entries ≤ levels → Holds objects start (objectsEntries entries start) →
      Placed objects levels start (start + countEntries entries)
  | [], levels, start, _, _ => Placed.empty objects levels start
  | (key, value) :: entries, levels, start, hlevels, hholds => by
    obtain ⟨hlevel, hlevels⟩ := max_le_iff.mp hlevels
    have hone : 1 ≤ levels := le_trans (levels_pos value) hlevel
    have hright := hholds.tail.right
    rw [length_objects] at hright
    have hkey := Placed.leaf hholds.head (string_children key) (string_keys key) hone
    have hfirst := placed_value value hlevel hholds.tail.left
    have hrest := placed_entries entries hlevels hright
    rw [countEntries, ← add_assoc, ← add_assoc]
    exact (hkey.append hfirst (Nat.le_add_right _ _)).append hrest (Nat.le_add_right _ _)

end

/-! What follows when the range is the whole list. -/

lemma Placed.refers (h : Placed objects levels 0 objects.length)
    (hitem : item ∈ objects.map itemOf) {child : ℕ} (hchild : child ∈ item.children) :
    child < objects.length := by
  obtain ⟨object, hobject, rfl⟩ := mem_map.mp hitem
  obtain ⟨index, hindex⟩ := List.getElem?_of_mem hobject
  have hlt : index < objects.length := (List.getElem?_eq_some_iff.mp hindex).1
  rw [← childrenOf_scannedOf hindex] at hchild
  exact (h.later index (zero_le _) hlt child hchild).2

lemma Placed.keysAreStrings (h : Placed objects levels 0 objects.length) :
    Wire.keysAreStrings (scannedOf objects) = true := by
  refine List.all_eq_true.mpr fun scanned hscanned => List.all_eq_true.mpr fun key hkey => ?_
  obtain ⟨item, hitem, rfl⟩ := mem_map.mp hscanned
  obtain ⟨object, hobject, rfl⟩ := mem_map.mp hitem
  obtain ⟨index, hindex⟩ := List.getElem?_of_mem hobject
  have hlt : index < objects.length := (List.getElem?_eq_some_iff.mp hindex).1
  have hkeys : (itemOf object).scanned.children.take (itemOf object).scanned.dictionaryKeyCount =
      (itemOf object).keys := take_keyCount _
  rw [hkeys] at hkey
  obtain ⟨text, htext⟩ := h.keys index object (zero_le _) hlt hindex key hkey
  refine decide_eq_true ?_
  rw [kindOf, getElem?_map, getElem?_map, htext]
  exact congrArg some (string_kind text)

lemma Placed.validates (h : Placed objects (maxDepth + 1) 0 objects.length) :
    ∃ colors, validateGraph (scannedOf objects) = .ok colors := by
  have hlength : (scannedOf objects).length = objects.length := by
    rw [length_map, length_map]
  refine validateGraph_ok (fun index child hchild => ?_) (fun index hindex => ?_)
  · rcases lt_or_ge index objects.length with hlt | hge
    · exact (h.later index (zero_le _) hlt child hchild).1
    · rw [childrenOf, List.getElem?_eq_none (by omega)] at hchild
      cases hchild
  · exact h.shallow index (zero_le _) (by omega)

end Placed

/-! ### The round trip -/

lemma charge_le_bytes (width : ℕ) (item : Item) : item.charge ≤ (item.bytes width).length := by
  cases item with
  | utf16 form units =>
    have hunits : (units.flatMap (beBytes 2)).length = units.length * 2 := by
      simp
    simp only [Item.charge, Item.bytes, Item.payload, length_cons, length_append]
    omega
  | data form text | ascii form text =>
    simp only [Item.charge, Item.bytes, Item.payload, length_cons, length_append]
    omega
  | _ => exact zero_le _

lemma chargesOf_le (width : ℕ) (objects : List EncodedObject) :
    chargesOf objects ≤ ((objects.map itemOf).flatMap (Item.bytes width)).length := by
  induction objects with
  | nil => exact zero_le _
  | cons object objects ih =>
    have hone := charge_le_bytes width (itemOf object)
    have hsum : chargesOf (object :: objects) = (itemOf object).charge + chargesOf objects := rfl
    rw [map_cons, List.flatMap_cons, length_append]
    omega

lemma length_bytes_le {items : List Item} (h : item ∈ items) :
    (item.bytes width).length ≤ (items.flatMap (Item.bytes width)).length := by
  obtain ⟨before, after, rfl⟩ := List.append_of_mem h
  rw [List.flatMap_append, List.flatMap_cons, length_append, length_append]
  omega

lemma referenceCount_eq (object : EncodedObject) :
    (itemOf object).children.length = object.referenceCount := by
  cases object with
  | string text => rw [string_children]; rfl
  | dictionary keys values => exact length_append
  | _ => rfl

/-- The bytes of the objects of a value. -/
def Value.body (value : Value) : Packet :=
  ((value.objects 0).map itemOf).flatMap (Item.bytes (integerStorageWidth (value.count - 1)))

def Value.trailer (value : Value) : Trailer :=
  ⟨integerStorageWidth (header.length + value.body.length), integerStorageWidth (value.count - 1),
    value.count, 0, header.length + value.body.length⟩

/-- The document of a value. -/
def Value.document (value : Value) : Packet :=
  header ++ value.body ++
    ((placesFrom value.trailer.referenceSize header.length ((value.objects 0).map itemOf)).flatMap
      (beBytes value.trailer.offsetSize) ++ value.trailer.bytes)

lemma Value.length_document (value : Value) : value.document.length =
    header.length + value.body.length +
      (value.count * integerStorageWidth (header.length + value.body.length) + trailerSize) := by
  have htable : ∀ w (places : List ℕ), (places.flatMap (beBytes w)).length = places.length * w := by
    intro w places
    simp
  rw [Value.document, length_append, length_append, length_append, htable, length_placesFrom,
    length_map, length_objects, length_trailerBytes]
  rfl

/-- The most bytes an object takes. -/
def EncodedObject.size : EncodedObject → ℕ
  | .null | .boolean _ => 1
  | .integer _ => 17
  | .data value => 10 + value.length
  | .string value => 10 + (value.utf8ByteSize + 2 * (encodeUtf16 value).length)
  | .array references => 10 + references.length * 8
  | .dictionary keys values => 10 + (keys.length + values.length) * 8

/-- The most bytes a list of objects takes. -/
def sizes (objects : List EncodedObject) : ℕ := (objects.map EncodedObject.size).sum

lemma storageWidth_le (value : ℕ) : integerStorageWidth value ≤ 8 := by
  rcases integerStorageWidth_cases value with h | h | h | h <;> omega

lemma length_rest_formOf (length : ℕ) : ((formOf length).rest length).length =
      if length < 15 then 0 else 1 + integerStorageWidth length := by
  unfold formOf
  split
  · rfl
  · rw [LengthForm.rest, length_cons, length_beBytes, (width_log2 length).1, Nat.add_comm]

lemma exponentOf_le (value : ℤ) : exponentOf value ≤ 4 := by
  have hlog := (width_log2 value.toNat).2
  unfold exponentOf
  split_ifs <;> omega

lemma length_bytes_le_size (hwidth : width ≤ 8) (object : EncodedObject) :
    ((itemOf object).bytes width).length ≤ object.size := by
  have hrest : ∀ length, ((formOf length).rest length).length ≤ 9 := by
    intro length
    have := storageWidth_le length
    rw [length_rest_formOf]
    split_ifs <;> omega
  have hwords : ∀ words : List ℕ, (words.flatMap (beBytes width)).length ≤ words.length * 8 := by
    intro words
    have hlength : (words.flatMap (beBytes width)).length = words.length * width := by simp
    rw [hlength]
    exact Nat.mul_le_mul_left _ hwidth
  cases object with
  | null | boolean _ => exact le_rfl
  | integer value =>
    have hpow : 2 ^ exponentOf value ≤ 2 ^ 4 := Nat.pow_le_pow_right (by decide) (exponentOf_le value)
    rw [itemOf, Item.bytes, Item.payload, length_cons, length_integerBytes, EncodedObject.size]
    omega
  | data value =>
    have := hrest value.length
    rw [itemOf, Item.bytes, Item.payload, length_cons, length_append, EncodedObject.size]
    omega
  | string value =>
    have := hrest value.utf8ByteSize
    have := hrest (encodeUtf16 value).length
    have hunits : ((encodeUtf16 value).flatMap (beBytes 2)).length = (encodeUtf16 value).length * 2 := by
      simp
    rw [itemOf, EncodedObject.size]
    split_ifs
    · rw [Item.bytes, Item.payload, length_cons, length_append, length_toUTF8]
      omega
    · rw [Item.bytes, Item.payload, length_cons, length_append]
      omega
  | array references =>
    have := hrest references.length
    have := hwords references
    rw [itemOf, Item.bytes, Item.payload, length_cons, length_append, EncodedObject.size]
    omega
  | dictionary keys values =>
    have := hrest keys.length
    have hwords := hwords (keys ++ values)
    rw [length_append] at hwords
    rw [itemOf, Item.bytes, Item.payload, length_cons, length_append, EncodedObject.size]
    omega

lemma length_body_le (hwidth : width ≤ 8) (objects : List EncodedObject) :
    ((objects.map itemOf).flatMap (Item.bytes width)).length ≤ sizes objects := by
  induction objects with
  | nil => exact le_rfl
  | cons object objects ih =>
    rw [map_cons, List.flatMap_cons, length_append]
    exact Nat.add_le_add (length_bytes_le_size hwidth object) ih

/-- The objects of a value are within the limits of the encoder. -/
def Value.Admitted (value : Value) : Prop :=
  Encoder.Admits ⟨[], 0, 0⟩ 0 value.levels (value.objects 0)

instance (object : EncodedObject) : Decidable (object.InRange ∧ object.Fits) := by
  cases object <;> unfold EncodedObject.InRange EncodedObject.Fits <;> infer_instance

instance (value : Value) : Decidable value.Admitted :=
  decidable_of_iff _ (Encoder.admits_iff _ _ _ _).symm

/-- A value is encoded exactly when its objects are within the limits and its document is not too
large. -/
lemma encode_ok_iff : encode value = .ok output ↔
    value.Admitted ∧ value.document.length ≤ maxPlistSize ∧ output = value.document := by
  have hadd := Encoder.add_decides value (⟨by decide, by decide, by decide, by decide, by simp⟩ :
    Encoder.Admits ⟨[], 0, 0⟩ 0 0 [])
  have hheader : append header [] = .ok header := by decide
  have hlen : header.length ≤ maxPlistSize := by decide
  have hlength : (header ++ value.body).length = header.length + value.body.length :=
    length_append
  unfold encode
  generalize Encoder.add value 0 ⟨[], 0, 0⟩ = r at hadd
  cases hadd with
  | fails h error => exact iff_of_false nofun fun hall => h hall.1
  | holds h =>
    have hfine : ∀ object ∈ value.objects 0, object.InRange := fun o ho => (h.fine o ho).1
    have hbody := encodeObjects_eq (integerStorageWidth_cases (value.count - 1)) hfine hlen
    rw [← Value.body] at hbody
    rw [hheader]
    dsimp only [Encoder.extend]
    rw [List.nil_append, List.length_nil, length_objects, hbody]
    by_cases hfit : header.length + value.body.length ≤ maxPlistSize
    · have htrailer := appends_encodeTrailer
        (placesFrom value.trailer.referenceSize header.length ((value.objects 0).map itemOf))
        value.trailer rfl (header ++ value.body) (by rwa [hlength])
      rw [← length_append, ← Value.document] at htrailer
      rw [if_pos hfit]
      dsimp only
      dsimp only [Value.trailer] at htrailer
      rw [hlength, htrailer]
      split_ifs with hdocument
      · exact ⟨fun heq => ⟨h, hdocument, (Except.ok.inj heq).symm⟩, fun hall => by rw [hall.2.2]⟩
      · exact iff_of_false nofun fun hall => hdocument hall.2.1
    · rw [if_neg hfit]
      refine iff_of_false nofun fun hall => ?_
      have hlarge := hall.2.1
      rw [Value.document, length_append] at hlarge
      omega

/-- A value within the limits is encoded when its objects take few bytes. -/
lemma encode_ok (h : value.Admitted)
    (hsize : sizes (value.objects 0) + value.count * 8 + 40 ≤ maxPlistSize) :
    encode value = .ok value.document ∧ value.document.length ≤ maxPlistSize := by
  have hbody : value.body.length ≤ sizes (value.objects 0) := length_body_le (storageWidth_le _) _
  have htable := Nat.mul_le_mul_left value.count
    (storageWidth_le (header.length + value.body.length))
  have hfixed : header.length + trailerSize = 40 := rfl
  have hlength : value.document.length ≤ maxPlistSize := by
    rw [Value.length_document]
    omega
  exact ⟨encode_ok_iff.mpr ⟨h, hlength, rfl⟩, hlength⟩

lemma decode_of_encode (hordered : value.Ordered)
    (h : encode value = .ok output) : decode output = .ok value := by
  obtain ⟨hadmitted, hlength, rfl⟩ := encode_ok_iff.mp h
  have hlevels : value.levels ≤ maxDepth + 1 := by
    have hdepth := hadmitted.depth
    omega
  have hheld : Holds (value.objects 0) 0 (value.objects 0) := List.prefix_refl _
  have hlen := length_objects value 0
  have hpos := count_pos value
  have hplaced := placed_value value hlevels hheld
  rw [Nat.zero_add, ← hlen] at hplaced
  have hroom : (value.objects 0).length ≤ maxObjects := by
    have hobjects := hadmitted.objects
    rwa [List.length_nil, Nat.zero_add] at hobjects
  have hbody : header.length + value.body.length ≤ maxPlistSize := by
    rw [Value.document, length_append, length_append] at hlength
    omega
  have hwf : ∀ object ∈ value.objects 0, (itemOf object).WellFormed := by
    intro object hobject
    obtain ⟨hrange, hfits⟩ := hadmitted.fine object hobject
    exact wellFormed_itemOf hrange hfits
      (le_trans (length_bytes_le (List.mem_map_of_mem hobject)) (by rw [← Value.body]; omega))
  -- a reference is at most the last number, and the width was chosen for that one
  have hmaxObjects : maxObjects < 2 ^ 64 := by decide
  have hword := lt_storageWidth (by omega : value.count - 1 < 2 ^ 64)
  have hitems : ∀ item ∈ (value.objects 0).map itemOf,
      item.WellFormed ∧ item.Refers value.trailer.referenceSize value.trailer.objectCount := by
    intro item hitem
    refine ⟨?_, fun child hchild => ?_⟩
    · obtain ⟨object, hobject, rfl⟩ := mem_map.mp hitem
      exact hwf object hobject
    · have hlt := hplaced.refers hitem hchild
      rw [Value.trailer]
      exact ⟨by dsimp only; omega, by dsimp only; omega⟩
  have hreference : 1 ≤ value.trailer.referenceSize ∧ value.trailer.referenceSize ≤ 8 := by
    show 1 ≤ integerStorageWidth (value.count - 1) ∧ integerStorageWidth (value.count - 1) ≤ 8
    rcases integerStorageWidth_cases (value.count - 1) with hw | hw | hw | hw <;> rw [hw] <;> decide
  have hsmall : value.trailer.offsetTableStart < 2 ^ 64 := by
    have hmax : maxPlistSize < 2 ^ 64 := by decide
    exact lt_of_le_of_lt hbody hmax
  have hwritten : Written value.document value.trailer ((value.objects 0).map itemOf) _ :=
    written_sideBySide rfl rfl rfl hsmall hreference (by rw [length_map, hlen]; rfl) hpos hitems
  have hreferences : (((value.objects 0).map itemOf).map fun item => item.children.length).sum ≤
      maxReferences := by
    have hfew := hadmitted.references
    rw [Nat.zero_add] at hfew
    have hsum : referencesOf (value.objects 0) =
        (((value.objects 0).map itemOf).map fun item => item.children.length).sum := by
      rw [List.map_map]
      refine congrArg List.sum (List.map_congr_left fun object _ => ?_)
      exact (referenceCount_eq object).symm
    omega
  obtain ⟨colors, hcolors⟩ := hplaced.validates
  have hbudget : DecodeBudget.Allows ⟨0, 0⟩ (value.objects 0) := by
    have hcharges : chargesOf (value.objects 0) ≤ value.body.length := chargesOf_le _ _
    have hnodes : maxObjects ≤ maxDecodedNodes := by decide
    have hbytes : maxPlistSize = maxValueBytes := rfl
    exact ⟨by dsimp only; omega, by dsimp only; omega⟩
  have hvalue : decodeObject (scanOf value.trailer.referenceSize ((value.objects 0).map itemOf))
      (maxDepth + 1) 0 ⟨0, 0⟩ = .ok (value, DecodeBudget.spend ⟨0, 0⟩ (value.objects 0)) :=
    decoding_value hwf value hordered hlevels hheld hbudget
  have hcount : value.trailer.objectCount ≤ maxObjects := by rwa [hlen] at hroom
  rw [decode, ok_bind (hwritten.scan_ok hlength hcount hreferences)]
  dsimp only
  rw [if_neg (by rw [hplaced.keysAreStrings]; decide), ok_bind hcolors]
  exact ok_bind hvalue _

/-- A value that can be encoded is read back. -/
theorem decode_encode {value : Value} (hordered : value.Ordered) {output : Packet}
    (h : encode value = .ok output) : decode output = .ok value :=
  decode_of_encode hordered h

def nestedValue : Value := .dictionary [("a", .array [.integer (-1), .boolean true])]

theorem decode_encode_nestedValue : nestedValue.Ordered ∧
      ∃ output, encode nestedValue = .ok output ∧ decode output = .ok nestedValue := by
  have hordered : nestedValue.Ordered :=
    ⟨List.pairwise_singleton _ _, ⟨trivial, trivial, trivial⟩, trivial⟩
  have hadmitted : nestedValue.Admitted := by decide +kernel
  obtain ⟨houtput, -⟩ := encode_ok hadmitted (by decide +kernel)
  exact ⟨hordered, _, houtput, decode_encode hordered houtput⟩

/-- The encoder refuses a value only where one of its limits is exceeded. -/
theorem encoding_is_refused_only_at_a_limit (value : Value) :
    (∃ output, encode value = .ok output) ↔ value.levels ≤ maxDepth + 1 ∧
      value.count ≤ maxObjects ∧ referencesOf (value.objects 0) ≤ maxReferences ∧
      bytesOf (value.objects 0) ≤ maxValueBytes ∧
      (∀ object ∈ value.objects 0, object.InRange ∧ object.Fits) ∧
      value.document.length ≤ maxPlistSize := by
  simp only [encode_ok_iff, Value.Admitted, Encoder.admits_iff, length_objects, List.length_nil,
    Nat.zero_add, exists_and_left, exists_eq, and_true, and_assoc]

end T1Bridge.Wire
