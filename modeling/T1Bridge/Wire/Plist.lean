import Mathlib.Data.List.Basic
import T1Bridge.Auth.Protocol

/-! # Property lists and their encoder

The values the bridge exchanges, and the encoder of binary property lists.  The encoder first
numbers the objects of a value, within limits, and then writes them with a table of offsets and
a trailer; every write checks the size of the output. -/

namespace T1Bridge.Wire

def maxPlistSize : ℕ := 16 * 1024 * 1024
def maxObjects : ℕ := 262144
def maxReferences : ℕ := 1048576
def maxDepth : ℕ := 64
def maxValueBytes : ℕ := maxPlistSize

/-- A dictionary has its entries in the order of the keys. -/
inductive Value where
  | null
  | boolean (value : Bool)
  | integer (value : ℤ)
  | data (value : Packet)
  | string (value : String)
  | array (values : List Value)
  | dictionary (entries : List (String × Value))

inductive PlistError where
  | inputTooLarge | outputTooLarge | invalidHeader | invalidTrailer | limitExceeded | malformed
  | unsupported | integerOutOfRange
deriving DecidableEq

/-! ### Numbering the objects -/

/-- An object whose children are numbers of objects. -/
inductive EncodedObject where
  | null
  | boolean (value : Bool)
  | integer (value : ℤ)
  | data (value : Packet)
  | string (value : String)
  | array (references : List ℕ)
  | dictionary (keys values : List ℕ)

/-- The objects so far and what they count against the limits. -/
structure Encoder where
  objects : List EncodedObject
  references : ℕ
  valueBytes : ℕ

/-- The smallest and largest integers on the wire. -/
def inWireRange (value : ℤ) : Bool := decide (-2 ^ 63 ≤ value) && decide (value ≤ 2 ^ 64 - 1)

namespace Encoder

variable (e : Encoder)

def chargeReferences (count : ℕ) : Except PlistError Encoder :=
  if e.references + count > maxReferences then .error .limitExceeded
  else .ok { e with references := e.references + count }

def chargeBytes (count : ℕ) : Except PlistError Encoder :=
  if e.valueBytes + count > maxValueBytes then .error .limitExceeded
  else .ok { e with valueBytes := e.valueBytes + count }

def push (object : EncodedObject) : Encoder :=
  { e with objects := e.objects ++ [object] }

/-- The object takes the place that was kept for it. -/
def place (index : ℕ) (object : EncodedObject) : Encoder :=
  { e with objects := e.objects.set index object }

/-- The next number, when the depth and the number of objects allow it; the place is kept by
`null`. -/
def reserve (depth : ℕ) (e : Encoder) (next : ℕ → Encoder → Except PlistError (ℕ × Encoder)) :
    Except PlistError (ℕ × Encoder) :=
  if depth > maxDepth ∨ e.objects.length ≥ maxObjects then .error .limitExceeded
  else next e.objects.length (e.push .null)

mutual

/-- Numbers a value, and then the values below it. -/
def add : Value → ℕ → Encoder → Except PlistError (ℕ × Encoder)
  | .null, depth, e => e.reserve depth fun index e => .ok (index, e.place index .null)
  | .boolean value, depth, e =>
    e.reserve depth fun index e => .ok (index, e.place index (.boolean value))
  | .integer value, depth, e =>
    e.reserve depth fun index e =>
      if inWireRange value then .ok (index, e.place index (.integer value))
      else .error .integerOutOfRange
  | .data value, depth, e =>
    e.reserve depth fun index e =>
      match e.chargeBytes value.length with
      | .error error => .error error
      | .ok e => .ok (index, e.place index (.data value))
  | .string value, depth, e =>
    e.reserve depth fun index e =>
      match e.chargeBytes value.utf8ByteSize with
      | .error error => .error error
      | .ok e => .ok (index, e.place index (.string value))
  | .array values, depth, e =>
    e.reserve depth fun index e =>
      match e.chargeReferences values.length with
      | .error error => .error error
      | .ok e =>
        match addAll values (depth + 1) e with
        | .error error => .error error
        | .ok (children, e) => .ok (index, e.place index (.array children))
  | .dictionary entries, depth, e =>
    e.reserve depth fun index e =>
      match e.chargeReferences (entries.length * 2) with
      | .error error => .error error
      | .ok e =>
        match addEntries entries (depth + 1) e with
        | .error error => .error error
        | .ok (keys, values, e) => .ok (index, e.place index (.dictionary keys values))

def addAll : List Value → ℕ → Encoder → Except PlistError (List ℕ × Encoder)
  | [], _, e => .ok ([], e)
  | value :: values, depth, e =>
    match add value depth e with
    | .error error => .error error
    | .ok (child, e) =>
      match addAll values depth e with
      | .error error => .error error
      | .ok (children, e) => .ok (child :: children, e)

def addEntries : List (String × Value) → ℕ → Encoder → Except PlistError (List ℕ × List ℕ × Encoder)
  | [], _, e => .ok ([], [], e)
  | (key, value) :: entries, depth, e =>
    match e.chargeBytes key.utf8ByteSize with
    | .error error => .error error
    | .ok e =>
      if e.objects.length ≥ maxObjects then .error .limitExceeded
      else
        match add value depth (e.push (.string key)) with
        | .error error => .error error
        | .ok (child, e') =>
          match addEntries entries depth e' with
          | .error error => .error error
          | .ok (keys, values, e'') => .ok (e.objects.length :: keys, child :: values, e'')

end

end Encoder

/-! ### Writing the objects -/

/-- A step of the encoder: it extends the output. -/
abbrev Writer := Packet → Except PlistError Packet

def append (bytes : Packet) : Writer := fun output =>
  if output.length + bytes.length > maxPlistSize then .error .outputTooLarge
  else .ok (output ++ bytes)

def push (byte : UInt8) : Writer := fun output =>
  if output.length ≥ maxPlistSize then .error .outputTooLarge else .ok (output ++ [byte])

/-- The writers one after the other. -/
def Writer.seq (f g : Writer) : Writer := fun output =>
  match f output with
  | .error error => .error error
  | .ok output => g output

def writeAll : List Writer → Writer
  | [] => fun output => .ok output
  | f :: fs => f.seq (writeAll fs)

/-- The last `width` bytes of a number, the high byte first. -/
def beBytes (width value : ℕ) : Packet :=
  (List.range width).map fun i => UInt8.ofNat (value / 256 ^ (width - 1 - i))

def appendBe (value width : ℕ) : Writer :=
  if width = 1 ∨ width = 2 ∨ width = 4 ∨ width = 8 then append (beBytes width value)
  else fun _ => .error .outputTooLarge

def integerStorageWidth (value : ℕ) : ℕ :=
  if value < 2 ^ 8 then 1 else if value < 2 ^ 16 then 2 else if value < 2 ^ 32 then 4 else 8

/-- The exponent of a width of 1, 2, 4 or 8 bytes. -/
def widthExponent (width : ℕ) : UInt8 := UInt8.ofNat (Nat.log2 width)

def encodeInteger (value : ℤ) : Writer :=
  if value < 0 then (push 0x13).seq (append (beBytes 8 (value + 2 ^ 64).toNat))
  else if integerStorageWidth value.toNat < 8 then
    (push (0x10 ||| widthExponent (integerStorageWidth value.toNat))).seq
      (appendBe value.toNat (integerStorageWidth value.toNat))
  else if value < 2 ^ 63 then (push 0x13).seq (appendBe value.toNat 8)
  else (push 0x14).seq ((append (List.replicate 8 0)).seq (appendBe value.toNat 8))

def encodeLength (marker : UInt8) (length : ℕ) : Writer :=
  if length < 15 then push (marker ||| UInt8.ofNat length)
  else
    (push (marker ||| 0x0f)).seq ((push (0x10 ||| widthExponent (integerStorageWidth length))).seq
        (appendBe length (integerStorageWidth length)))

def isAscii (text : String) : Bool := text.toList.all fun c => decide (c.val < 128)

/-- The UTF-16 units of a character. -/
def utf16Units (c : Char) : List ℕ :=
  if c.val.toNat < 0x10000 then [c.val.toNat]
  else [0xd800 + (c.val.toNat - 0x10000) / 0x400, 0xdc00 + (c.val.toNat - 0x10000) % 0x400]

def encodeUtf16 (text : String) : List ℕ := text.toList.flatMap utf16Units

def encodeString (value : String) : Writer :=
  if isAscii value then (encodeLength 0x50 value.utf8ByteSize).seq (append value.toUTF8.data.toList)
  else
    (encodeLength 0x60 (encodeUtf16 value).length).seq
      (writeAll ((encodeUtf16 value).map fun unit => append (beBytes 2 unit)))

def encodeObject (referenceSize : ℕ) : EncodedObject → Writer
  | .null => push 0x00
  | .boolean false => push 0x08
  | .boolean true => push 0x09
  | .integer value => encodeInteger value
  | .data value => (encodeLength 0x40 value.length).seq (append value)
  | .string value => encodeString value
  | .array references =>
    (encodeLength 0xa0 references.length).seq
      (writeAll (references.map fun reference => appendBe reference referenceSize))
  | .dictionary keys values =>
    (encodeLength 0xd0 keys.length).seq
      (writeAll ((keys ++ values).map fun reference => appendBe reference referenceSize))

/-- Writes the objects and remembers where each begins. -/
def encodeObjects (referenceSize : ℕ) :
    List EncodedObject → Packet → Except PlistError (List ℕ × Packet)
  | [], output => .ok ([], output)
  | object :: objects, output =>
    match encodeObject referenceSize object output with
    | .error error => .error error
    | .ok output' =>
      match encodeObjects referenceSize objects output' with
      | .error error => .error error
      | .ok (offsets, output'') => .ok (output.length :: offsets, output'')

def header : Packet := ascii ['b', 'p', 'l', 'i', 's', 't', '0', '0']

/-- The table of offsets and the trailer. -/
def encodeTrailer (offsets : List ℕ) (start referenceSize objectCount top : ℕ) : Writer :=
  (writeAll (offsets.map fun offset => appendBe offset (integerStorageWidth start))).seq
    ((append (List.replicate 6 0)).seq ((push (UInt8.ofNat (integerStorageWidth start))).seq
      ((push (UInt8.ofNat referenceSize)).seq ((appendBe objectCount 8).seq
        ((appendBe top 8).seq (appendBe start 8))))))

def encode (value : Value) : Except PlistError Packet :=
  match Encoder.add value 0 ⟨[], 0, 0⟩ with
  | .error error => .error error
  | .ok (top, encoder) =>
    let referenceSize := integerStorageWidth (encoder.objects.length - 1)
    match append header [] with
    | .error error => .error error
    | .ok output =>
      match encodeObjects referenceSize encoder.objects output with
      | .error error => .error error
      | .ok (offsets, output) =>
        encodeTrailer offsets output.length referenceSize encoder.objects.length top output

lemma integerStorageWidth_cases (value : ℕ) :
    integerStorageWidth value = 1 ∨ integerStorageWidth value = 2 ∨
      integerStorageWidth value = 4 ∨ integerStorageWidth value = 8 := by
  unfold integerStorageWidth
  split
  · exact .inl rfl
  split
  · exact .inr (.inl rfl)
  split
  · exact .inr (.inr (.inl rfl))
  · exact .inr (.inr (.inr rfl))

end T1Bridge.Wire
