import Mathlib.Data.List.Sort
import T1Bridge.Lib.Bytes
import T1Bridge.Lib.Tiling
import T1Bridge.Wire.Plist

/-! # The decoder of property lists

The decoder reads the trailer and the table of offsets, sorts the offsets to find where each object
ends, scans every object for its kind and its children, refuses a graph with a cycle, and only then
decodes the top object.  Two limits are spent while it decodes: the values and their bytes. -/

namespace T1Bridge.Wire

def trailerSize : ℕ := 32
def maxDecodedNodes : ℕ := 1048576

/-! ### Reading bytes

A cursor that moves to the end of an object is the bytes of the object that are left. -/

def readByte : Packet → Except PlistError (UInt8 × Packet)
  | [] => .error .malformed
  | byte :: rest => .ok (byte, rest)

def take (length : ℕ) (rest : Packet) : Except PlistError (Packet × Packet) :=
  if rest.length < length then .error .malformed
  else .ok (rest.take length, rest.drop length)

variable (bytes : Packet)

def fromBe : ℕ := bytes.foldl (fun value byte => value * 256 + byte.toNat) 0

def readBe : Except PlistError ℕ :=
  if bytes = [] ∨ bytes.length > 8 then .error .malformed else .ok (fromBe bytes)

variable (low : UInt8)

def integerWidth : Except PlistError ℕ :=
  if low ≤ 4 then .ok (2 ^ low.toNat) else .error .unsupported

def decodeInteger : Except PlistError ℤ :=
  match bytes.length with
  | 1 | 2 | 4 => .ok (fromBe bytes)
  | 8 => .ok (signed 8 (fromBe bytes))
  | 16 =>
    if inWireRange (signed 16 (fromBe bytes)) then .ok (signed 16 (fromBe bytes))
    else .error .integerOutOfRange
  | _ => .error .unsupported

variable (rest : Packet)

def readLength : Except PlistError (ℕ × Packet) :=
  if low < 0x0f then .ok (low.toNat, rest)
  else do
    let (marker, rest) ← readByte rest
    if marker &&& 0xf0 ≠ 0x10 then .error .malformed
    else do
      let width ← integerWidth (marker &&& 0x0f)
      if width > 8 then .error .limitExceeded
      else do
        let (bytes, rest) ← take width rest
        let length ← readBe bytes
        if length > max maxReferences maxPlistSize then .error .limitExceeded
        else .ok (length, rest)

/-- The units of big-endian UTF-16; a byte that is left over does not count. -/
def utf16Pairs : Packet → List ℕ
  | high :: low :: rest => (high.toNat * 256 + low.toNat) :: utf16Pairs rest
  | _ => []

def decodeUtf16 : List ℕ → Option (List Char)
  | [] => some []
  | unit :: units =>
    if unit < 0xd800 ∨ 0xdfff < unit then (decodeUtf16 units).map (Char.ofNat unit :: ·)
    else if 0xdc00 ≤ unit then none
    else
      match units with
      | [] => none
      | second :: units =>
        if 0xdc00 ≤ second ∧ second ≤ 0xdfff then
          (decodeUtf16 units).map
            (Char.ofNat (0x10000 + (unit - 0xd800) * 0x400 + (second - 0xdc00)) :: ·)
        else none

/-- Words of one width, each of which is checked before the next is read. -/
def readWords (width : ℕ) (accepts : ℕ → Bool) : ℕ → Packet → Except PlistError (List ℕ)
  | 0, _ => .ok []
  | count + 1, bytes => do
    let word ← readBe (bytes.take width)
    if accepts word = false then .error .malformed
    else do
      let words ← readWords width accepts count (bytes.drop width)
      .ok (word :: words)

def readReferences (count referenceSize objectCount : ℕ) (rest : Packet) :
    Except PlistError (List ℕ × Packet) :=
  if count > maxReferences then .error .limitExceeded
  else do
    let (bytes, rest) ← take (count * referenceSize) rest
    let children ← readWords referenceSize (fun reference => decide (reference < objectCount)) count
      bytes
    .ok (children, rest)

/-! ### Scanning -/

inductive ObjectKind where
  | null | boolean | integer | data | string | array | dictionary
deriving DecidableEq

/-- What the scan keeps of an object. -/
structure ScannedObject where
  kind : ObjectKind
  children : List ℕ
  dictionaryKeyCount : ℕ

def isAsciiBytes : Bool := bytes.all fun byte => decide (byte < 128)

def scanInteger : Except PlistError (ScannedObject × Packet) := do
  let width ← integerWidth low
  let (bytes, rest) ← take width rest
  let _ ← decodeInteger bytes
  .ok (⟨.integer, [], 0⟩, rest)

def scanData : Except PlistError (ScannedObject × Packet) := do
  let (length, rest) ← readLength low rest
  let (_, rest) ← take length rest
  .ok (⟨.data, [], 0⟩, rest)

def scanAscii : Except PlistError (ScannedObject × Packet) := do
  let (length, rest) ← readLength low rest
  let (bytes, rest) ← take length rest
  if isAsciiBytes bytes = false then .error .malformed else .ok (⟨.string, [], 0⟩, rest)

def scanUtf16 : Except PlistError (ScannedObject × Packet) := do
  let (units, rest) ← readLength low rest
  let (bytes, rest) ← take (units * 2) rest
  if decodeUtf16 (utf16Pairs bytes) = none then .error .malformed else .ok (⟨.string, [], 0⟩, rest)

variable (referenceSize objectCount : ℕ)

def scanArray (low : UInt8) (rest : Packet) : Except PlistError (ScannedObject × Packet) := do
  let (count, rest) ← readLength low rest
  let (children, rest) ← readReferences count referenceSize objectCount rest
  .ok (⟨.array, children, 0⟩, rest)

def scanDictionary (low : UInt8) (rest : Packet) : Except PlistError (ScannedObject × Packet) := do
  let (count, rest) ← readLength low rest
  let (children, rest) ← readReferences (count * 2) referenceSize objectCount rest
  .ok (⟨.dictionary, children, count⟩, rest)

/-- The object after its marker, and what is left after the object. -/
def scanPayload (marker : UInt8) (rest : Packet) : Except PlistError (ScannedObject × Packet) :=
  if marker = 0x00 then .ok (⟨.null, [], 0⟩, rest)
  else if marker = 0x08 ∨ marker = 0x09 then .ok (⟨.boolean, [], 0⟩, rest)
  else if marker &&& 0xf0 = 0x10 then scanInteger (marker &&& 0x0f) rest
  else if marker &&& 0xf0 = 0x40 then scanData (marker &&& 0x0f) rest
  else if marker &&& 0xf0 = 0x50 then scanAscii (marker &&& 0x0f) rest
  else if marker &&& 0xf0 = 0x60 then scanUtf16 (marker &&& 0x0f) rest
  else if marker &&& 0xf0 = 0xa0 then scanArray referenceSize objectCount (marker &&& 0x0f) rest
  else if marker &&& 0xf0 = 0xd0 then scanDictionary referenceSize objectCount (marker &&& 0x0f) rest
  else .error .unsupported

def scanObject : Except PlistError ScannedObject := do
  let (marker, rest) ← readByte bytes
  let (object, rest) ← scanPayload referenceSize objectCount marker rest
  if rest ≠ [] then .error .malformed else .ok object

/-! ### The graph of the objects -/

/-- Not visited, being visited, and done. -/
inductive Color where
  | white | grey | black
deriving DecidableEq

def childrenOf (objects : List ScannedObject) (index : ℕ) : List ℕ :=
  match objects[index]? with
  | none => []
  | some object => object.children

/-- The first number is how many levels are still allowed. -/
def validateAcyclic (objects : List ScannedObject) : ℕ → ℕ → List Color →
    Except PlistError (List Color)
  | 0, _, _ => .error .limitExceeded
  | levels + 1, index, colors =>
    match colors.getD index .white with
    | .grey => .error .malformed
    | .black => .ok colors
    | .white => do
      let colors ← (childrenOf objects index).foldlM
        (fun colors child => validateAcyclic objects levels child colors)
        (colors.set index .grey)
      .ok (colors.set index .black)

variable (objects : List ScannedObject)

def validateGraph : Except PlistError (List Color) :=
  (List.range objects.length).foldlM
    (fun colors index => validateAcyclic objects (maxDepth + 1) index colors)
    (List.replicate objects.length .white)

def kindOf (index : ℕ) : Option ObjectKind :=
  (objects[index]?).map ScannedObject.kind

/-- Every key of a dictionary is a string. -/
def keysAreStrings : Bool :=
  objects.all fun object => (object.children.take object.dictionaryKeyCount).all fun key =>
    decide (kindOf objects key = some .string)

/-! ### Decoding -/

/-- What decoding may still use. -/
structure DecodeBudget where
  nodes : ℕ
  valueBytes : ℕ

namespace DecodeBudget

def chargeNode (budget : DecodeBudget) : Except PlistError DecodeBudget :=
  if budget.nodes + 1 > maxDecodedNodes then .error .limitExceeded
  else .ok { budget with nodes := budget.nodes + 1 }

def chargeBytes (budget : DecodeBudget) (amount : ℕ) : Except PlistError DecodeBudget :=
  if budget.valueBytes + amount > maxValueBytes then .error .limitExceeded
  else .ok { budget with valueBytes := budget.valueBytes + amount }

end DecodeBudget

/-- A step of the decoder: it spends from the budget. -/
abbrev Decoding (α : Type) := DecodeBudget → Except PlistError (α × DecodeBudget)

/-- The entry in its place, unless its key is there already. -/
def insertEntry (key : String) (value : Value) :
    List (String × Value) → Option (List (String × Value))
  | [] => some [(key, value)]
  | (other, before) :: entries =>
    if key < other then some ((key, value) :: (other, before) :: entries)
    else if key = other then none
    else (insertEntry key value entries).map ((other, before) :: ·)

def decodeChildren (f : ℕ → Decoding Value) : List ℕ → Decoding (List Value)
  | [], budget => .ok ([], budget)
  | child :: children, budget => do
    let (value, budget) ← f child budget
    let (values, budget) ← decodeChildren f children budget
    .ok (value :: values, budget)

def decodeEntries (f : ℕ → Decoding Value) :
    List (ℕ × ℕ) → List (String × Value) → Decoding (List (String × Value))
  | [], dictionary, budget => .ok (dictionary, budget)
  | (key, value) :: entries, dictionary, budget => do
    let (key, budget) ← f key budget
    match key with
    | .string key =>
      let (value, budget) ← f value budget
      match insertEntry key value dictionary with
      | none => .error .malformed
      | some dictionary => decodeEntries f entries dictionary budget
    | _ => .error .malformed

def decodeText (bytes : Packet) : Except PlistError String :=
  match String.fromUTF8? ⟨bytes.toArray⟩ with
  | some text => .ok text
  | none => .error .malformed

def decodeUnits (bytes : Packet) : Except PlistError String :=
  match decodeUtf16 (utf16Pairs bytes) with
  | some text => .ok (String.ofList text)
  | none => .error .malformed

/-- The object after its marker, with `f` for the objects below it. -/
def decodePayload (f : ℕ → Decoding Value) (object : ScannedObject) (marker : UInt8) (rest : Packet) :
    Decoding Value := fun budget =>
  match object.kind with
  | .null => .ok (.null, budget)
  | .boolean => .ok (.boolean (marker = 0x09), budget)
  | .integer => do
    let width ← integerWidth (marker &&& 0x0f)
    let (bytes, _) ← take width rest
    let value ← decodeInteger bytes
    .ok (.integer value, budget)
  | .data => do
    let (length, rest) ← readLength (marker &&& 0x0f) rest
    let budget ← budget.chargeBytes length
    let (bytes, _) ← take length rest
    .ok (.data bytes, budget)
  | .string =>
    if marker &&& 0xf0 = 0x50 then do
      let (length, rest) ← readLength (marker &&& 0x0f) rest
      let budget ← budget.chargeBytes length
      let (bytes, _) ← take length rest
      let text ← decodeText bytes
      .ok (.string text, budget)
    else do
      let (units, rest) ← readLength (marker &&& 0x0f) rest
      let budget ← budget.chargeBytes (units * 2)
      let (bytes, _) ← take (units * 2) rest
      let text ← decodeUnits bytes
      .ok (.string text, budget)
  | .array => do
    let (values, budget) ← decodeChildren f object.children budget
    .ok (.array values, budget)
  | .dictionary => do
    let keys := object.children.take object.dictionaryKeyCount
    let values := object.children.drop object.dictionaryKeyCount
    let (dictionary, budget) ← decodeEntries f (keys.zip values) [] budget
    .ok (.dictionary dictionary, budget)

/-- What was found before the top object is decoded: the bytes of each object and what they are. -/
structure Scan where
  extents : List Packet
  objects : List ScannedObject

/-- The first number is how many levels are still allowed. -/
def decodeObject (scan : Scan) : ℕ → ℕ → Decoding Value
  | 0, _, _ => .error .limitExceeded
  | levels + 1, index, budget => do
    let budget ← budget.chargeNode
    match scan.extents[index]?, scan.objects[index]? with
    | some bytes, some object =>
      let (marker, rest) ← readByte bytes
      decodePayload (decodeObject scan levels) object marker rest budget
    | _, _ => .error .malformed

/-! ### Documents -/

/-- The sizes and counts behind the offset table. -/
structure Trailer where
  offsetSize : ℕ
  referenceSize : ℕ
  objectCount : ℕ
  topObject : ℕ
  offsetTableStart : ℕ

/-- The bytes from one position to another. -/
def slice (start stop : ℕ) (input : Packet) : Packet := (input.drop start).take (stop - start)

def readTrailer (input : Packet) : Except PlistError Trailer :=
  let trailerStart := input.length - trailerSize
  let trailer := input.drop trailerStart
  let offsetSize := (trailer.getD 6 0).toNat
  let referenceSize := (trailer.getD 7 0).toNat
  if trailer.take 6 ≠ List.replicate 6 0 then .error .invalidTrailer
  else if ¬ (1 ≤ offsetSize ∧ offsetSize ≤ 8) ∨ ¬ (1 ≤ referenceSize ∧ referenceSize ≤ 8) then
    .error .invalidTrailer
  else do
    let objectCount ← readBe (slice 8 16 trailer)
    let topObject ← readBe (slice 16 24 trailer)
    let offsetTableStart ← readBe (slice 24 32 trailer)
    if objectCount = 0 ∨ objectCount > maxObjects ∨ topObject ≥ objectCount then
      .error .invalidTrailer
    else if offsetTableStart < header.length ∨ offsetTableStart > trailerStart then
      .error .invalidTrailer
    else if offsetTableStart + objectCount * offsetSize ≠ trailerStart then .error .invalidTrailer
    else .ok ⟨offsetSize, referenceSize, objectCount, topObject, offsetTableStart⟩

/-- The table names places between the header and the table. -/
def readOffsets (trailer : Trailer) (table : Packet) : Except PlistError (List ℕ) :=
  readWords trailer.offsetSize
    (fun offset => decide (header.length ≤ offset) && decide (offset < trailer.offsetTableStart))
    trailer.objectCount table

def orderedOffsets (offsets : List ℕ) : List ℕ := offsets.insertionSort (· ≤ ·)

/-- Two neighbours are equal. -/
def hasRepeat : List ℕ → Bool
  | first :: second :: rest => decide (first = second) || hasRepeat (second :: rest)
  | _ => false

/-- Each offset with the next one, the last with the start of the table. -/
def endsByOffset (ordered : List ℕ) (offsetTableStart : ℕ) : List (ℕ × ℕ) :=
  Tiling.ends ordered offsetTableStart

def extentsOf (input : Packet) (ends : List (ℕ × ℕ)) : List ℕ → Except PlistError (List Packet)
  | [] => .ok []
  | offset :: offsets =>
    match ends.lookup offset with
    | none => .error .malformed
    | some stop => do
      let rest ← extentsOf input ends offsets
      .ok (slice offset stop input :: rest)

/-- The objects are scanned in turn while their references are counted. -/
def scanObjects (referenceSize objectCount : ℕ) :
    List Packet → ℕ → Except PlistError (List ScannedObject)
  | [], _ => .ok []
  | bytes :: extents, totalReferences => do
    let object ← scanObject bytes referenceSize objectCount
    if totalReferences + object.children.length > maxReferences then .error .limitExceeded
    else do
      let objects ← scanObjects referenceSize objectCount extents
        (totalReferences + object.children.length)
      .ok (object :: objects)

/-- The objects as they stand between the header and the table. -/
def placeObjects (input : Packet) : Except PlistError (Trailer × List Packet) :=
  if input.length > maxPlistSize then .error .inputTooLarge
  else if input.length < header.length + trailerSize then .error .malformed
  else if input.take header.length ≠ header then .error .invalidHeader
  else do
    let trailer ← readTrailer input
    let offsets ← readOffsets trailer (input.drop trailer.offsetTableStart)
    if (orderedOffsets offsets).head? ≠ some header.length ∨ hasRepeat (orderedOffsets offsets) then
      .error .malformed
    else do
      let extents ← extentsOf input
        (endsByOffset (orderedOffsets offsets) trailer.offsetTableStart) offsets
      .ok (trailer, extents)

/-- Everything before the checks of the graph. -/
def scanDocument (input : Packet) : Except PlistError (Trailer × Scan) := do
  let (trailer, extents) ← placeObjects input
  let objects ← scanObjects trailer.referenceSize trailer.objectCount extents 0
  .ok (trailer, ⟨extents, objects⟩)

def decode (input : Packet) : Except PlistError Value := do
  let (trailer, scan) ← scanDocument input
  if keysAreStrings scan.objects = false then .error .malformed
  else do
    let _ ← validateGraph scan.objects
    let (value, _) ← decodeObject scan (maxDepth + 1) trailer.topObject ⟨0, 0⟩
    .ok value

end T1Bridge.Wire
