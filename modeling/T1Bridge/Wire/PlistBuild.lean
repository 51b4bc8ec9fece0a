import T1Bridge.Wire.PlistEncode

/-! # Building the value

`build` makes the value of an object from the list of objects alone.  It can fail in two ways: a limit
is exceeded, or a dictionary repeats a key.  Once a document is scanned and its graph is checked, the
decoder does what `build` does (`decodeObject_build`), so the other errors of the decoder and the
bytes outside an object are out of its reach. -/

namespace T1Bridge.Wire

variable {item : Item} {items : List Item} {levels index : ℕ} {offsets : List ℕ} {trailer : Trailer}
  {input : Packet} {value : Value}

inductive BuildError where
  | limit
  | repeatedKey

/-- The error the decoder returns for it. -/
def BuildError.report : BuildError → PlistError
  | limit => .limitExceeded
  | repeatedKey => .malformed

/-- What was done: the calls, and what they were charged. -/
structure Work where
  calls : ℕ
  budget : DecodeBudget

/-- A step of the builder.  What was done stays done when the step fails. -/
def Building (α : Type) := Work → Except BuildError α × Work

instance : Monad Building where
  pure a := fun work => (.ok a, work)
  bind x f := fun work =>
    match x work with
    | (.ok a, work) => f a work
    | (.error e, work) => (.error e, work)

namespace Building

def fail {α : Type} (e : BuildError) : Building α := fun work => (.error e, work)

def call : Building Unit := fun work => (.ok (), { work with calls := work.calls + 1 })

/-- A charge that is not granted exceeds a limit. -/
def charge (spend : DecodeBudget → Except PlistError DecodeBudget) : Building Unit := fun work =>
  match spend work.budget with
  | .ok budget => (.ok (), { work with budget := budget })
  | .error _ => (.error .limit, work)

end Building

/-! ### The builder -/

open Building

def asciiText (bytes : Packet) : String :=
  String.ofList (bytes.map fun byte => Char.ofNat byte.toNat)

def unitsText (units : List ℕ) : String := String.ofList ((decodeUtf16 units).getD [])

def Value.text : Value → String
  | .string text => text
  | _ => ""

def buildChildren (f : ℕ → Building Value) : List ℕ → Building (List Value)
  | [] => pure []
  | child :: children => do
    let value ← f child
    let values ← buildChildren f children
    pure (value :: values)

def buildEntries (f : ℕ → Building Value) :
    List (ℕ × ℕ) → List (String × Value) → Building (List (String × Value))
  | [], dictionary => pure dictionary
  | (key, value) :: entries, dictionary => do
    let key ← f key
    let value ← f value
    match insertEntry key.text value dictionary with
    | none => fail .repeatedKey
    | some dictionary => buildEntries f entries dictionary

def Item.build (f : ℕ → Building Value) : Item → Building Value
  | .null => pure .null
  | .boolean value => pure (.boolean value)
  | .integer _ value => pure (.integer value)
  | .data _ value => do
    charge (·.chargeBytes value.length)
    pure (.data value)
  | .ascii _ text => do
    charge (·.chargeBytes text.length)
    pure (.string (asciiText text))
  | .utf16 _ units => do
    charge (·.chargeBytes (units.length * 2))
    pure (.string (unitsText units))
  | .array _ references => do
    let values ← buildChildren f references
    pure (.array values)
  | .dictionary _ keys values => do
    let entries ← buildEntries f (keys.zip values) []
    pure (.dictionary entries)

def build (items : List Item) : ℕ → ℕ → Building Value
  | 0, _ => do
    call
    fail .limit
  | levels + 1, index => do
    call
    charge DecodeBudget.chargeNode
    (items.getD index .null).build (build items levels)

/-! ### The decoder follows the builder -/

/-- What the decoder shows of a step. -/
def outcome {α : Type} : Except BuildError α × Work → Except PlistError (α × DecodeBudget)
  | (.ok a, work) => .ok (a, work.budget)
  | (.error e, _) => .error e.report

/-- Building and decoding come to the same result within the same budget. -/
def Agrees {α : Type} (x : Building α) (y : Decoding α) : Prop :=
  ∀ work, y work.budget = outcome (x work)

/-- A value the step can return. -/
def Returns {α : Type} (x : Building α) (a : α) : Prop := ∃ work work', x work = (.ok a, work')

section Agrees

variable {α β : Type} {x : Building α} {y : Decoding α}

lemma bind_run (x : Building α) (f : α → Building β) (work : Work) :
    (x >>= f) work = match x work with
      | (.ok a, work) => f a work
      | (.error e, work) => (.error e, work) := rfl

lemma Agrees.bind {f : α → Building β} {k : α × DecodeBudget → Except PlistError (β × DecodeBudget)}
    (h : Agrees x y) (hf : ∀ a, Returns x a → Agrees (f a) fun budget => k (a, budget)) :
    Agrees (x >>= f) fun budget => y budget >>= k := by
  intro work
  show (y work.budget >>= k) = _
  rw [bind_run, h work]
  rcases hx : x work with ⟨e | a, work'⟩
  · rfl
  · exact hf a ⟨work, work', hx⟩ work'

lemma Agrees.charge {spend : DecodeBudget → Except PlistError DecodeBudget}
    (hspend : ∀ budget e, spend budget = .error e → e = .limitExceeded) (h : Agrees x y) :
    Agrees (do Building.charge spend; x) fun budget => spend budget >>= y := by
  intro work
  show (spend work.budget >>= y) = _
  rw [bind_run, Building.charge]
  cases hs : spend work.budget with
  | error e =>
    cases hspend _ _ hs
    rfl
  | ok budget => exact h { work with budget := budget }

lemma chargeNode_error (budget : DecodeBudget) (e : PlistError)
    (h : budget.chargeNode = .error e) : e = .limitExceeded := by
  unfold DecodeBudget.chargeNode at h
  split at h <;> cases h
  rfl

lemma chargeBytes_error {amount : ℕ} (budget : DecodeBudget) (e : PlistError)
    (h : budget.chargeBytes amount = .error e) : e = .limitExceeded := by
  unfold DecodeBudget.chargeBytes at h
  split at h <;> cases h
  rfl

lemma agrees_ok (a : α) : Agrees (pure a) fun budget => .ok (a, budget) := fun _ => rfl

end Agrees

lemma decodeText_ascii {bytes : Packet} (h : isAsciiBytes bytes = true) :
    decodeText bytes = .ok (asciiText bytes) := by
  have hbytes : (asciiText bytes).toUTF8.data.toList = bytes := by
    rw [toUTF8_flatMap, asciiText, String.toList_ofList, List.flatMap_map]
    refine (List.flatMap_congr fun byte hbyte => ?_).trans (List.flatMap_singleton' bytes)
    have hsmall : byte.toNat < 128 :=
      UInt8.lt_iff_toNat_lt.mp (of_decide_eq_true (List.all_eq_true.mp h byte hbyte))
    have hchar : (Char.ofNat byte.toNat).val.toNat = byte.toNat := by
      rw [Char.ofNat, dif_pos (.inl (by omega))]
      rfl
    unfold String.utf8EncodeChar
    rw [hchar, if_pos (by omega)]
    simp
  have hread := decodeText_toUTF8 (asciiText bytes)
  rwa [hbytes] at hread

lemma textOf_units {units : List ℕ} (h : decodeUtf16 units ≠ none) :
    textOf units = .ok (unitsText units) := by
  unfold textOf unitsText
  cases hunits : decodeUtf16 units with
  | none => exact absurd hunits h
  | some text => rfl

section Follows

variable {f : ℕ → Building Value} {g : ℕ → Decoding Value}

lemma agrees_children {children : List ℕ} (hf : ∀ child ∈ children, Agrees (f child) (g child)) :
    Agrees (buildChildren f children) (decodeChildren g children) := by
  induction children with
  | nil => exact agrees_ok []
  | cons child children ih =>
    intro work
    refine (hf child List.mem_cons_self).bind (fun value _ => ?_) work
    refine (ih fun c hc => hf c (List.mem_cons_of_mem _ hc)).bind fun values _ => ?_
    exact agrees_ok (value :: values)

lemma agrees_entries {entries : List (ℕ × ℕ)} {dictionary : List (String × Value)}
    (hf : ∀ entry ∈ entries, Agrees (f entry.1) (g entry.1) ∧ Agrees (f entry.2) (g entry.2))
    (hkeys : ∀ entry ∈ entries, ∀ key, Returns (f entry.1) key → ∃ text, key = .string text) :
    Agrees (buildEntries f entries dictionary) (decodeEntries g entries dictionary) := by
  induction entries generalizing dictionary with
  | nil => exact agrees_ok dictionary
  | cons entry entries ih =>
    obtain ⟨hkey, hvalue⟩ := hf entry List.mem_cons_self
    intro work
    refine hkey.bind (fun key hreturns => ?_) work
    obtain ⟨text, rfl⟩ := hkeys entry List.mem_cons_self key hreturns
    refine hvalue.bind fun value _ work => ?_
    show (match insertEntry text value dictionary with
      | none => .error .malformed
      | some dictionary => decodeEntries g entries dictionary work.budget) =
        outcome ((match insertEntry text value dictionary with
          | none => fail .repeatedKey
          | some dictionary => buildEntries f entries dictionary : Building _) work)
    cases insertEntry text value dictionary with
    | none => rfl
    | some dictionary =>
      exact ih (fun e he => hf e (List.mem_cons_of_mem _ he))
        (fun e he => hkeys e (List.mem_cons_of_mem _ he)) work

lemma agrees_item (hwf : item.WellFormed) (hf : ∀ child ∈ item.children, Agrees (f child) (g child))
    (hkeys : ∀ key ∈ item.keys, ∀ value, Returns (f key) value → ∃ text, value = .string text) :
    Agrees (item.build f) (item.decode g) := by
  cases item with
  | null | boolean value | integer exponent value => exact agrees_ok _
  | data form value => exact (agrees_ok _).charge chargeBytes_error
  | ascii form text =>
    refine Agrees.charge chargeBytes_error fun work => ?_
    rw [Except.ok_bind (decodeText_ascii hwf.2)]
    rfl
  | utf16 form units =>
    refine Agrees.charge chargeBytes_error fun work => ?_
    rw [Except.ok_bind (textOf_units hwf.2.2)]
    rfl
  | array form references => exact (agrees_children hf).bind fun values _ => agrees_ok _
  | dictionary form keys values =>
    refine Agrees.bind (agrees_entries (fun entry hentry => ?_) fun entry hentry => ?_)
      fun entries _ => agrees_ok _
    · obtain ⟨hkey, hvalue⟩ := List.of_mem_zip hentry
      exact ⟨hf _ (List.mem_append_left _ hkey), hf _ (List.mem_append_right _ hvalue)⟩
    · exact hkeys _ (List.of_mem_zip hentry).1

end Follows

lemma run_inv {α β : Type} {x : Building α} {f : α → Building β} {b : β} {work work' : Work}
    (h : (x >>= f) work = (.ok b, work')) :
    ∃ a middle, x work = (.ok a, middle) ∧ f a middle = (.ok b, work') := by
  rw [bind_run] at h
  rcases hx : x work with ⟨e | a, middle⟩
  · rw [hx] at h
    cases h
  · rw [hx] at h
    exact ⟨a, middle, rfl, h⟩

lemma getD_of_getElem? (h : items[index]? = some item) : items.getD index .null = item := by
  rw [List.getD_eq_getElem?_getD, h, Option.getD_some]

lemma string_of_returns (hitem : items[index]? = some item) (hkind : item.kind = .string)
    (h : Returns (build items levels index) value) : ∃ text, value = .string text := by
  obtain ⟨work, work', h⟩ := h
  cases levels with
  | zero =>
    cases h
  | succ levels =>
    obtain ⟨_, _, -, h⟩ := run_inv h
    obtain ⟨_, _, -, h⟩ := run_inv h
    rw [getD_of_getElem? hitem] at h
    cases item with
    | ascii form text | utf16 form text =>
      obtain ⟨_, _, -, h⟩ := run_inv h
      cases h
      exact ⟨_, rfl⟩
    | _ => cases hkind

lemma decodeObject_build (hwf : ∀ item ∈ items, item.WellFormed)
    (hrange : ∀ item ∈ items, ∀ child ∈ item.children, child < items.length)
    (hkeys : ∀ item ∈ items, ∀ key ∈ item.keys,
      ∃ target, items[key]? = some target ∧ target.kind = .string)
    (width levels : ℕ) (hindex : index < items.length) :
    Agrees (build items levels index) (decodeObject (scanOf width items) levels index) := by
  -- on the levels; every child is an object, so it is built with one level less
  induction levels generalizing index with
  | zero => exact fun _ => rfl
  | succ levels ih =>
    have hitem := List.getElem?_eq_getElem hindex
    have hmem := List.mem_of_getElem? hitem
    have hbuild := agrees_item (hwf _ hmem) (fun child hchild => ih (hrange _ hmem child hchild))
      fun key hkey value hreturns => by
        obtain ⟨target, htarget, hkind⟩ := hkeys _ hmem key hkey
        exact string_of_returns htarget hkind hreturns
    intro work
    have hcharge := hbuild.charge chargeNode_error { work with calls := work.calls + 1 }
    rw [decodeObject_item hwf levels hitem, build, getD_of_getElem? hitem]
    exact hcharge

lemma decodeObject_top (hwritten : Written input trailer items offsets)
    (hkeys : keysAreStrings (items.map Item.scanned) = true) :
    decodeObject (scanOf trailer.referenceSize items) (maxDepth + 1) trailer.topObject ⟨0, 0⟩ =
      outcome (build items (maxDepth + 1) trailer.topObject ⟨0, ⟨0, 0⟩⟩) :=
  decodeObject_build (fun item hitem => (hwritten.wellFormed item hitem).1) hwritten.range
    (keys_of_check hkeys) _ _ (hwritten.count ▸ hwritten.top) ⟨0, ⟨0, 0⟩⟩

/-- A document that is accepted has the value that is built from its objects. -/
lemma Written.built (h : Written input trailer items offsets) (hok : decode input = .ok value) :
    ∃ work, build items (maxDepth + 1) trailer.topObject ⟨0, ⟨0, 0⟩⟩ = (.ok value, work) := by
  obtain ⟨trailer', scan, colors, budget, hscan, hkeys, -, hvalue⟩ := decode_inv hok
  obtain ⟨rfl, rfl⟩ := h.scan_eq hscan
  have hvalue := (decodeObject_top h hkeys).symm.trans hvalue
  rcases hbuild : build items (maxDepth + 1) trailer'.topObject ⟨0, ⟨0, 0⟩⟩ with ⟨e | built, work⟩
  · rw [hbuild] at hvalue
    cases hvalue
  · rw [hbuild] at hvalue
    cases hvalue
    exact ⟨work, rfl⟩

/-- After the checks the objects lie inside the input and have no cycle, and building the value
reads nothing but them: it fails only where the builder does. -/
theorem building_fails_only_at_limits_and_repeats {input : Packet} {trailer : Trailer} {scan : Scan}
    {colors : List Color} (hscan : scanDocument input = .ok (trailer, scan))
    (hkeys : keysAreStrings scan.objects = true) (hgraph : validateGraph scan.objects = .ok colors) :
    ∃ items offsets, Written input trailer items offsets ∧ scan = scanOf trailer.referenceSize items ∧
      (∀ index, ¬ Relation.TransGen (Links items) index index) ∧
      decodeObject scan (maxDepth + 1) trailer.topObject ⟨0, 0⟩ =
        outcome (build items (maxDepth + 1) trailer.topObject ⟨0, ⟨0, 0⟩⟩) := by
  obtain ⟨items, offsets, hwritten, rfl⟩ := scanDocument_inv hscan
  exact ⟨items, offsets, hwritten, rfl, acyclic_of_validated hwritten.range hgraph,
    decodeObject_top hwritten hkeys⟩

theorem building_sharedDocument : ∃ trailer scan items,
    scanDocument sharedDocument = .ok (trailer, scan) ∧
    decodeObject scan (maxDepth + 1) trailer.topObject ⟨0, 0⟩ =
      outcome (build items (maxDepth + 1) trailer.topObject ⟨0, ⟨0, 0⟩⟩) := by
  obtain ⟨trailer, scan, colors, budget, hscan, hkeys, hgraph, -⟩ :=
    decode_inv decode_sharedDocument
  obtain ⟨items, offsets, -, -, -, hbuild⟩ :=
    building_fails_only_at_limits_and_repeats hscan hkeys hgraph
  exact ⟨trailer, scan, items, hscan, hbuild⟩

end T1Bridge.Wire
