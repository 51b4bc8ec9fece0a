import Mathlib.Data.List.DropRight
import T1Bridge.Import.Restore
import T1Bridge.Wire.PlistRoundTrip

/-! # XML property lists of recovery

Signing requests and restore messages are written as XML.  The writer bounds the depth of a value
and the size of the document, the reader the open elements, their number and the integers.  A
document is the list of what the writer appends, and the reader works on the events that an XML
reader reports for it.  The libraries of both sides are a parameter: the escapes, base64 and the
XML reader itself, of which `Library.Reports` says what is assumed. -/

namespace T1Bridge.Import.Plist

open Wire (EncodedObject OrderedAll OrderedEntries Value insertEntry insertEntry_last levels_pos
  levelsAll levelsEntries maxPlistSize objectsAll objectsEntries)
open Except (bind_eq_ok ite_error_eq_ok of_bind_ok of_ite_error_ok ok_bind)
open List (append_assoc append_nil flatMap_append)

inductive Event
  | start (name : String) (attributes : Bool)
  | stop
  | text (text : String)
  | generalRef (name : String)
  | docType (text : String)
  | decl
  | comment
  /-- Whatever else is reported, also that the document is malformed. -/
  | other

/-- What the writer appends. -/
inductive Markup
  | prolog
  | opening (tag : String)
  | closing (tag : String)
  | empty (tag : String)
  | content (text : String)

def docType : String :=
  "plist PUBLIC \"-//Apple//DTD PLIST 1.0//EN\" \"http://www.apple.com/DTDs/PropertyList-1.0.dtd\""

/-- The parts of the crates that the source relies on. -/
structure Library where
  escape : String → String
  unescape : String → Option String
  encodeBase64 : Packet → String
  decodeBase64 : String → Option Packet
  /-- What the reader reports for a piece; it may split character data. -/
  events : Markup → List Event

/-- The reader reports markup as it stands. -/
structure Library.Reports (lib : Library) : Prop where
  prolog : lib.events .prolog = [.decl, .docType docType, .start "plist" true]
  opening (tag : String) : lib.events (.opening tag) = [.start tag false]
  closing (tag : String) : lib.events (.closing tag) = [.stop]
  empty (tag : String) : lib.events (.empty tag) = [.start tag false, .stop]

variable {lib : Library} {v : Value} {values : List Value} {entries : List (String × Value)}

/-! ### Writing -/

def Markup.written : Markup → String
  | prolog => "<?xml version=\"1.0\" encoding=\"UTF-8\"?><!DOCTYPE " ++ docType ++
      "><plist version=\"1.0\">"
  | opening tag => "<" ++ tag ++ ">"
  | closing tag => "</" ++ tag ++ ">"
  | empty tag => "<" ++ tag ++ "/>"
  | content text => text

def size (output : List Markup) : ℕ := (output.map fun piece => piece.written.utf8ByteSize).sum

def tagged (tag text : String) : List Markup := [.opening tag, .content text, .closing tag]

mutual

def writeValue (lib : Library) (value : Value) (output : List Markup) (depth : ℕ) :
    Except Error (List Markup) :=
  if depth ≥ 64 ∨ size output > maxPlistSize then .error invalid
  else match value with
  | .boolean true => .ok (output ++ [.empty "true"])
  | .boolean false => .ok (output ++ [.empty "false"])
  | .string value => .ok (output ++ tagged "string" (lib.escape value))
  | .integer value => .ok (output ++ tagged "integer" (toString value))
  | .data value => .ok (output ++ tagged "data" (lib.encodeBase64 value))
  | .array values => do
    let output ← writeAll lib values (output ++ [.opening "array"]) (depth + 1)
    .ok (output ++ [.closing "array"])
  | .dictionary entries => do
    let output ← writeEntries lib entries (output ++ [.opening "dict"]) (depth + 1)
    .ok (output ++ [.closing "dict"])
  | .null => .error invalid

def writeAll (lib : Library) (values : List Value) (output : List Markup) (depth : ℕ) :
    Except Error (List Markup) :=
  match values with
  | [] => .ok output
  | value :: values => do
    let output ← writeValue lib value output depth
    writeAll lib values output depth

def writeEntries (lib : Library) (entries : List (String × Value)) (output : List Markup)
    (depth : ℕ) : Except Error (List Markup) :=
  match entries with
  | [] => .ok output
  | (key, value) :: entries => do
    let output ← writeValue lib value (output ++ tagged "key" (lib.escape key)) depth
    writeEntries lib entries output depth

end

def encodeXml (lib : Library) (value : Value) : Except Error (List Markup) := do
  let output ← writeValue lib value [.prolog] 0
  let output := output ++ [.closing "plist"]
  if size output > maxPlistSize then .error invalid else .ok output

/-! ### Reading -/

/-- An open element and what it holds so far. -/
structure Element where
  name : String
  text : String := ""
  children : List (Bool × Value) := []

/-- Keys and values in turn; the source compares each with the parity of its index. -/
def alternate : Bool → List (Bool × Value) → Bool
  | _, [] => true
  | expected, (key, _) :: children => key == expected && alternate (!expected) children

def pairs : List (Bool × Value) → List (String × Value) → Except Error (List (String × Value))
  | (true, .string key) :: (false, value) :: children, map =>
    match insertEntry key value map with
    | some map => pairs children map
    | none => .error invalid
  | (true, .string _) :: _, _ => .error invalid
  | _, map => .ok map

def compact (text : String) : String :=
  .ofList (text.toList.filter (· ∉ [' ', '\t', '\n', '\x0c', '\r']))

/-- `char::is_whitespace`. -/
def isWhitespace (c : Char) : Bool :=
  9 ≤ c.toNat && c.toNat ≤ 13 || 0x2000 ≤ c.toNat && c.toNat ≤ 0x200a ||
    c.toNat ∈ [0x20, 0x85, 0xa0, 0x1680, 0x2028, 0x2029, 0x202f, 0x205f, 0x3000]

def trim (chars : List Char) : List Char := (chars.dropWhile isWhitespace).rdropWhile isWhitespace

def parseDigits (digits : List Char) : Option ℤ :=
  if digits ≠ [] ∧ digits.all Char.isDigit then some (Nat.ofDigitChars 10 digits 0) else none

/-- A trimmed text as an `i128`; what overflows it is refused as out of range. -/
def parse (text : String) : Option ℤ :=
  match trim text.toList with
  | '-' :: digits => (parseDigits digits).map Int.neg
  | '+' :: digits => parseDigits digits
  | digits => parseDigits digits

namespace Element

variable (lib) (e : Element)

def isBlank : Bool := e.text.toList.all isWhitespace

def value : Except Error Value :=
  match e.name with
  | "key" | "string" => .ok (.string e.text)
  | "integer" =>
    match parse e.text with
    | some value =>
      if value < -2 ^ 63 ∨ value > 2 ^ 64 - 1 then .error invalid else .ok (.integer value)
    | none => .error invalid
  | "data" =>
    match lib.decodeBase64 (compact e.text) with
    | some value => .ok (.data value)
    | none => .error invalid
  | "true" | "false" =>
    if e.isBlank then .ok (.boolean (e.name == "true")) else .error invalid
  | "array" =>
    if e.children.all (!·.1) then .ok (.array (e.children.map Prod.snd)) else .error invalid
  | "dict" =>
    if e.children.length % 2 = 0 then do
      let map ← pairs e.children []
      .ok (.dictionary map)
    else .error invalid
  | "plist" =>
    match e.children with
    | [(false, value)] => .ok value
    | _ => .error invalid
  | _ => .error invalid

def finish : Except Error (Bool × Value) :=
  let container := e.name == "plist" || e.name == "dict" || e.name == "array"
  if container && !e.isBlank || !container && !e.children.isEmpty then .error invalid
  else do
    let value ← e.value lib
    .ok (e.name == "key", value)

end Element

/-- The open elements, innermost first, and the finished value. -/
structure Decoder where
  stack : List Element := []
  output : Option Value := none
  count : ℕ := 0

def step (lib : Library) (d : Decoder) : Event → Except Error Decoder
  | .start name attributes =>
    if d.stack.length ≥ 64 ∨ d.output.isSome ∨ d.count ≥ 262144 then .error invalid
    else if d.stack.isEmpty ∧ name ≠ "plist" then .error invalid
    else if name ≠ "plist" ∧ attributes then .error invalid
    else .ok { d with count := d.count + 1, stack := { name } :: d.stack }
  | .stop =>
    match d.stack with
    | [] => .error invalid
    | element :: stack =>
      if element.name = "dict" ∧ alternate true element.children = false then .error invalid
      else do
        let value ← element.finish lib
        match stack with
        | [] => .ok { d with stack := [], output := some value.2 }
        | parent :: stack =>
          .ok { d with stack := { parent with children := parent.children ++ [value] } :: stack }
  | .text text =>
    match d.stack with
    | [] => if text.toList.all isWhitespace then .ok d else .error invalid
    | parent :: stack => .ok { d with stack := { parent with text := parent.text ++ text } :: stack }
  | .generalRef name =>
    match lib.unescape ("&" ++ name ++ ";"), d.stack with
    | some text, parent :: stack =>
      .ok { d with stack := { parent with text := parent.text ++ text } :: stack }
    | _, _ => .error invalid
  | .docType text =>
    if d.stack.isEmpty ∧ d.output.isNone ∧ '[' ∉ text.toList then .ok d else .error invalid
  | .decl | .comment => .ok d
  | .other => .error invalid

/-- The XML branch of `decode`, for a document of this size. -/
def decode (lib : Library) (size : ℕ) (events : List Event) : Except Error Value :=
  if size > maxPlistSize then .error invalid
  else do
    let d ← events.foldlM (step lib) {}
    match d with
    | ⟨[], some value, _⟩ => .ok value
    | _ => .error invalid

/-! ### What a document is read as -/

/-- The character data of these events. -/
def Library.spelled (lib : Library) : List Event → Option String
  | [] => some ""
  | .text text :: events => (lib.spelled events).map (text ++ ·)
  | .generalRef name :: events => do
    let text ← lib.unescape ("&" ++ name ++ ";")
    (lib.spelled events).map (text ++ ·)
  | _ => none

/-- The libraries are correct on this leaf of a value. -/
def Library.Correct (lib : Library) : EncodedObject → Prop
  | .string value => lib.spelled (lib.events (.content (lib.escape value))) = some value
  | .integer value => lib.spelled (lib.events (.content (toString value))) = some (toString value)
  | .data value =>
      lib.spelled (lib.events (.content (lib.encodeBase64 value))) = some (lib.encodeBase64 value) ∧
      lib.decodeBase64 (compact (lib.encodeBase64 value)) = some value
  | _ => True

/-- Inside an element the pieces add this text and these children to it, exactly when so many more
levels and elements are left and the integers of these objects fit. -/
def Reads (lib : Library) (pieces : List Markup) (text : String) (children : List (Bool × Value))
    (levels : ℕ) (objects : List EncodedObject) : Prop :=
  ∀ (parent : Element) rest n d, rest.length < 64 → n ≤ 262144 →
    ((pieces.flatMap lib.events).foldlM (step lib) ⟨parent :: rest, none, n⟩ = .ok d ↔
      (rest.length + levels < 64 ∧ n + objects.length ≤ 262144 ∧ ∀ object ∈ objects, object.InRange) ∧
        ⟨⟨parent.name, parent.text ++ text, parent.children ++ children⟩ :: rest, none,
          n + objects.length⟩ = d)

namespace Reads

variable {pieces pieces' : List Markup} {text text' tag : String} {levels levels' : ℕ}
  {children children' : List (Bool × Value)} {child : Bool × Value} {object : EncodedObject}
  {objects objects' : List EncodedObject}

lemma nil : Reads lib [] "" [] 0 [] := by
  intro parent rest n d hrest hn
  simp [pure, Except.pure, hrest, hn]

lemma append (h : Reads lib pieces text children levels objects)
    (h' : Reads lib pieces' text' children' levels' objects') :
    Reads lib (pieces ++ pieces') (text ++ text') (children ++ children') (max levels levels')
      (objects ++ objects') := by
  intro parent rest n d hrest hn
  simp only [flatMap_append, List.foldlM_append, bind_eq_ok, List.forall_mem_append,
    List.length_append]
  constructor
  · rintro ⟨d, hd, hd'⟩
    obtain ⟨⟨hlevels, hcount, hfits⟩, rfl⟩ := (h _ _ _ _ hrest hn).mp hd
    obtain ⟨⟨hlevels', hcount', hfits'⟩, rfl⟩ := (h' _ _ _ _ hrest hcount).mp hd'
    refine ⟨⟨by omega, by omega, hfits, hfits'⟩, ?_⟩
    simp only [append_assoc, String.append_assoc, Nat.add_assoc]
  · rintro ⟨⟨hlevels, hcount, hfits, hfits'⟩, rfl⟩
    refine ⟨_, (h _ _ _ _ hrest hn).mpr ⟨⟨by omega, by omega, hfits⟩, rfl⟩, ?_⟩
    refine (h' _ _ _ _ hrest (by omega)).mpr ⟨⟨by omega, by omega, hfits'⟩, ?_⟩
    simp only [append_assoc, String.append_assoc, Nat.add_assoc]

lemma content {written : String} (h : lib.spelled (lib.events (.content written)) = some text) :
    Reads lib [.content written] text [] 0 [] := by
  have hrun : ∀ (events : List Event) {text : String}, lib.spelled events = some text →
      ∀ (parent : Element) rest n, events.foldlM (step lib) ⟨parent :: rest, none, n⟩ =
        .ok ⟨{ parent with text := parent.text ++ text } :: rest, none, n⟩ := by
    intro events
    induction events with
    | nil =>
      rintro _ ⟨⟩ parent rest n
      simp [pure, Except.pure]
    | cons event events ih =>
      intro text h parent rest n
      cases event <;> simp only [Library.spelled, reduceCtorEq] at h
      case text first =>
        obtain ⟨behind, hbehind, rfl⟩ := Option.map_eq_some_iff.mp h
        rw [← String.append_assoc]
        exact ih hbehind { parent with text := parent.text ++ first } rest n
      case generalRef name =>
        obtain ⟨first, hfirst, h⟩ := Option.bind_eq_some_iff.mp h
        obtain ⟨behind, hbehind, rfl⟩ := Option.map_eq_some_iff.mp h
        rw [← String.append_assoc, List.foldlM_cons, step, hfirst]
        exact ih hbehind { parent with text := parent.text ++ first } rest n
  intro parent rest n d hrest hn
  simp [hrun _ h, hrest, hn]

lemma element (h : Reads lib pieces text children levels objects) (hreports : lib.Reports)
    (hturns : tag = "dict" → alternate true children = true)
    (hfinish : ∀ x, Element.finish lib ⟨tag, text, children⟩ = .ok x ↔ object.InRange ∧ child = x) :
    Reads lib (.opening tag :: pieces ++ [.closing tag]) "" [child] (1 + levels)
      (object :: objects) := by
  intro parent rest n d hrest hn
  have hstart : ∀ d, step lib ⟨parent :: rest, none, n⟩ (.start tag false) = .ok d ↔
      (rest.length < 63 ∧ n < 262144) ∧ ⟨{ name := tag } :: parent :: rest, none, n + 1⟩ = d := by
    intro d
    simp [step, ite_error_eq_ok]
  have hstop : ∀ n d, step lib ⟨⟨tag, text, children⟩ :: parent :: rest, none, n⟩ .stop = .ok d ↔
      object.InRange ∧
        ⟨{ parent with children := parent.children ++ [child] } :: rest, none, n⟩ = d := by
    intro n d
    simp only [step, ite_error_eq_ok, bind_eq_ok, hfinish]
    simp +contextual [hturns]
  have hinner := h { name := tag } (parent :: rest) (n + 1)
  simp only [String.empty_append, List.nil_append, List.length_cons] at hinner
  simp only [List.cons_append, List.flatMap_cons, flatMap_append, hreports.opening,
    hreports.closing, List.flatMap_nil,
    List.nil_append, List.foldlM_cons, List.foldlM_append, List.foldlM_nil, bind_pure, bind_eq_ok,
    hstart, List.forall_mem_cons, List.length_cons]
  constructor
  · rintro ⟨_, ⟨⟨hlevel, hroom⟩, rfl⟩, d', hd', hd⟩
    obtain ⟨⟨hlevels, hcount, hfits⟩, rfl⟩ := (hinner _ (by omega) hroom).mp hd'
    obtain ⟨hfits', rfl⟩ := (hstop _ _).mp hd
    refine ⟨⟨by omega, by omega, hfits', hfits⟩, ?_⟩
    simp only [String.append_empty, Nat.add_assoc, Nat.add_comm 1]
  · rintro ⟨⟨hlevels, hcount, hfits', hfits⟩, rfl⟩
    refine ⟨_, ⟨⟨by omega, by omega⟩, rfl⟩, _,
      (hinner _ (by omega) (by omega)).mpr ⟨⟨by omega, by omega, hfits⟩, rfl⟩, ?_⟩
    rw [hstop, String.append_empty, Nat.add_assoc, Nat.add_comm 1]
    exact ⟨hfits', rfl⟩

end Reads

/-- The children of a dictionary. -/
def childrenOf (entries : List (String × Value)) : List (Bool × Value) :=
  entries.flatMap fun (key, value) => [(true, .string key), (false, value)]

lemma alternate_childrenOf (entries : List (String × Value)) :
    alternate true (childrenOf entries) = true := by
  induction entries with
  | nil => rfl
  | cons entry entries ih => simpa [childrenOf, alternate] using ih

lemma pairs_childrenOf {map : List (String × Value)}
    (h : ((map ++ entries).map Prod.fst).Pairwise (· < ·)) :
    pairs (childrenOf entries) map = .ok (map ++ entries) := by
  induction entries generalizing map with
  | nil => simp [childrenOf, pairs]
  | cons entry entries ih =>
    obtain ⟨key, value⟩ := entry
    have hbefore : ∀ other ∈ map, other.1 < key := by
      rw [List.map_append, List.pairwise_append] at h
      intro other hother
      exact h.2.2 other.1 (List.mem_map_of_mem hother) key List.mem_cons_self
    rw [List.append_cons] at h ⊢
    simpa [childrenOf, pairs, insertEntry_last hbefore] using ih h

variable {text tag : String} {child : Bool × Value}

lemma trim_of_digits {digits : List Char} (h : ∀ c ∈ digits, c.isDigit = true ∨ c = '-') :
    trim digits = digits := by
  have hblank : ∀ c ∈ digits, ¬ isWhitespace c = true := by
    intro c hc
    rcases h c hc with hdigit | rfl
    · have hrange : 48 ≤ c.toNat ∧ c.toNat ≤ 57 := Char.isDigit_iff_toNat.mp hdigit
      simp [isWhitespace]
      omega
    · decide
  rw [trim, List.dropWhile_eq_self_iff.mpr fun hpos => hblank _ (List.getElem_mem hpos),
    List.rdropWhile_eq_self_iff.mpr fun hne => hblank _ (List.getLast_mem hne)]

lemma parse_repr (n : ℤ) : parse n.repr = some n := by
  have hdigits (m : ℕ) : ∀ c ∈ Nat.toDigits 10 m, c.isDigit = true := fun c hc =>
    Nat.isDigit_of_mem_toDigits (by decide) (by decide) hc
  have hparse (m : ℕ) : parseDigits (Nat.toDigits 10 m) = some (m : ℤ) := by
    rw [parseDigits, if_pos ⟨Nat.toDigits_ne_nil, List.all_eq_true.mpr (hdigits m)⟩,
      Nat.ofDigitChars_ten_toDigits]
  rcases le_or_gt 0 n with hn | hn
  · have htext : n.repr.toList = Nat.toDigits 10 n.toNat := by
      rw [Int.repr_eq_if, if_pos hn, Nat.repr_eq_ofList_toDigits, String.toList_ofList]
    rw [parse, htext, trim_of_digits fun c hc => .inl (hdigits _ c hc)]
    split
    · next digits heq => exact absurd (hdigits _ '-' (heq ▸ List.mem_cons_self)) (by decide)
    · next digits heq => exact absurd (hdigits _ '+' (heq ▸ List.mem_cons_self)) (by decide)
    · rw [hparse, Int.toNat_of_nonneg hn]
  · have htext : n.repr.toList = '-' :: Nat.toDigits 10 (-n).toNat := by
      rw [Int.repr_eq_if, if_neg (by omega), Nat.repr_eq_ofList_toDigits, String.toList_append,
        String.toList_ofList, String.toList_ofList]
      rfl
    rw [parse, htext, trim_of_digits (List.forall_mem_cons.mpr
      ⟨.inr rfl, fun c hc => .inl (hdigits _ c hc)⟩)]
    change (parseDigits _).map Int.neg = _
    rw [hparse, Int.toNat_of_nonneg (by omega)]
    exact congrArg some (neg_neg n)

lemma finish_integer (n : ℤ) (x : Bool × Value) :
    Element.finish lib ⟨"integer", n.repr, []⟩ = .ok x ↔
      Wire.inWireRange n = true ∧ (false, .integer n) = x := by
  have hvalue : Element.value lib ⟨"integer", n.repr, []⟩ =
      if n < -2 ^ 63 ∨ n > 2 ^ 64 - 1 then .error invalid else .ok (.integer n) := by
    simp only [Element.value, parse_repr]
  change (Element.value lib _ >>= fun value => .ok (false, value)) = .ok x ↔ _
  simp [hvalue, bind_eq_ok, ite_error_eq_ok, Wire.inWireRange]

lemma finish_iff {e : Element} (h : e.finish lib = .ok child) (x : Bool × Value) :
    e.finish lib = .ok x ↔ True ∧ child = x := by
  simp [h]

section

variable (hreports : lib.Reports)

include hreports

-- The lists of children need `hreports` only for the values in them.
set_option linter.unusedSectionVars false in
mutual

/-- What is written for a value reads as the value. -/
theorem writeValue_reads : ∀ (v : Value) {output output' : List Markup} {depth start : ℕ},
    v.Ordered → (∀ object ∈ v.objects start, lib.Correct object) →
    writeValue lib v output depth = .ok output' → ∃ pieces, output' = output ++ pieces ∧
      Reads lib pieces "" [(false, v)] v.levels (v.objects start)
  | v, output, output', depth, start, hordered, hcorrect, h => by
    unfold writeValue at h
    obtain ⟨-, h⟩ := of_ite_error_ok h
    cases v with
    | null => cases h
    | boolean b =>
      have hempty : ∀ tag, Reads lib [.opening tag, .closing tag] "" [(false, .boolean b)] 1
          [.boolean b] → Reads lib [.empty tag] "" [(false, .boolean b)] 1 [.boolean b] := by
        simp [Reads, hreports.opening, hreports.closing, hreports.empty]
      cases b <;> cases h <;>
        exact ⟨_, rfl, hempty _ (Reads.nil.element hreports (by simp) (finish_iff rfl))⟩
    | integer n =>
      have hspelled := hcorrect (.integer n) List.mem_cons_self
      cases h
      exact ⟨_, rfl, (Reads.content hspelled).element hreports (by simp) (finish_integer n)⟩
    | data bytes =>
      obtain ⟨hspelled, hdecode⟩ := hcorrect (.data bytes) List.mem_cons_self
      cases h
      have hfinish : Element.finish lib ⟨"data", lib.encodeBase64 bytes, []⟩ =
          .ok (false, .data bytes) := by
        simp only [Element.finish, Element.value, hdecode]
        rfl
      exact ⟨_, rfl, (Reads.content hspelled).element hreports (by simp) (finish_iff hfinish)⟩
    | string text =>
      have hspelled := hcorrect (.string text) List.mem_cons_self
      cases h
      exact ⟨_, rfl, (Reads.content hspelled).element hreports (by simp) (finish_iff rfl)⟩
    | array values =>
      obtain ⟨inner, hinner, h⟩ := of_bind_ok h
      cases h
      obtain ⟨-, hcorrect⟩ := List.forall_mem_cons.mp hcorrect
      obtain ⟨pieces, rfl, hreads⟩ := writeAll_reads values hordered hcorrect hinner
      have hfinish : Element.finish lib ⟨"array", "", values.map (Prod.mk false)⟩ =
          .ok (false, .array values) := by
        simp [Element.finish, Element.value, Element.isBlank]
        rfl
      exact ⟨_, by simp, hreads.element hreports (by simp) (finish_iff hfinish)⟩
    | dictionary entries =>
      obtain ⟨inner, hinner, h⟩ := of_bind_ok h
      cases h
      obtain ⟨-, hcorrect⟩ := List.forall_mem_cons.mp hcorrect
      obtain ⟨pieces, rfl, hreads⟩ := writeEntries_reads entries hordered.2 hcorrect hinner
      have hfinish : Element.finish lib ⟨"dict", "", childrenOf entries⟩ =
          .ok (false, .dictionary entries) := by
        have hpairs : pairs (childrenOf entries) [] = .ok entries := pairs_childrenOf hordered.1
        have heven : (childrenOf entries).length % 2 = 0 := by simp [childrenOf]
        simp [Element.finish, Element.value, Element.isBlank, heven, hpairs]
        rfl
      exact ⟨_, by simp, hreads.element hreports (fun _ => alternate_childrenOf entries)
        (finish_iff hfinish)⟩

theorem writeAll_reads : ∀ (values : List Value) {output output' : List Markup} {depth start : ℕ},
    OrderedAll values → (∀ object ∈ objectsAll values start, lib.Correct object) →
    writeAll lib values output depth = .ok output' → ∃ pieces, output' = output ++ pieces ∧
      Reads lib pieces "" (values.map (Prod.mk false)) (levelsAll values) (objectsAll values start)
  | [], _, _, _, _, _, _, h => by
    cases h
    exact ⟨[], (append_nil _).symm, .nil⟩
  | v :: values, output, _, depth, start, ⟨hv, hvalues⟩, hcorrect, h => by
    obtain ⟨hcorrect, hcorrect'⟩ := List.forall_mem_append.mp hcorrect
    obtain ⟨middle, hmiddle, h⟩ := of_bind_ok h
    obtain ⟨pieces, rfl, hreads⟩ := writeValue_reads v hv hcorrect hmiddle
    obtain ⟨pieces', rfl, hreads'⟩ := writeAll_reads values hvalues hcorrect' h
    exact ⟨_, append_assoc .., hreads.append hreads'⟩

theorem writeEntries_reads : ∀ (entries : List (String × Value)) {output output' : List Markup}
    {depth start : ℕ}, OrderedEntries entries →
    (∀ object ∈ objectsEntries entries start, lib.Correct object) →
    writeEntries lib entries output depth = .ok output' → ∃ pieces, output' = output ++ pieces ∧
      Reads lib pieces "" (childrenOf entries) (levelsEntries entries) (objectsEntries entries start)
  | [], _, _, _, _, _, _, h => by
    cases h
    exact ⟨[], (append_nil _).symm, .nil⟩
  | (key, v) :: entries, output, _, depth, start, ⟨hv, hentries⟩, hcorrect, h => by
    obtain ⟨hkey, hcorrect⟩ := List.forall_mem_cons.mp hcorrect
    obtain ⟨hcorrect, hcorrect'⟩ := List.forall_mem_append.mp hcorrect
    obtain ⟨middle, hmiddle, h⟩ := of_bind_ok h
    obtain ⟨pieces, rfl, hreads⟩ := writeValue_reads v hv hcorrect hmiddle
    obtain ⟨pieces', rfl, hreads'⟩ := writeEntries_reads entries hentries hcorrect' h
    have hkey : Reads lib (tagged "key" (lib.escape key)) "" [(true, .string key)] 1 [.string key] :=
      (Reads.content hkey).element hreports (by simp) (finish_iff rfl)
    have hall := hkey.append (hreads.append hreads')
    rw [← max_assoc, max_eq_right (levels_pos v)] at hall
    exact ⟨_, by simp only [append_assoc], hall⟩

end

end

/-- **A written value is read back** as itself exactly when it has fewer than 64 levels and fewer
than 262,144 keys and values, and its integers lie between the least signed and the greatest unsigned
number of 64 bits. -/
theorem xml_value_reads_back_iff {document : List Markup} (hreports : lib.Reports)
    (hordered : v.Ordered) (hcorrect : ∀ object ∈ v.objects 0, lib.Correct object)
    (h : encodeXml lib v = .ok document) :
    decode lib (size document) (document.flatMap lib.events) = .ok v ↔
      v.levels < 64 ∧ v.count < 262144 ∧ ∀ object ∈ v.objects 0, object.InRange := by
  obtain ⟨output, houtput, h⟩ := of_bind_ok h
  obtain ⟨hsize, h⟩ := of_ite_error_ok h
  cases h
  obtain ⟨pieces, rfl, hreads⟩ := writeValue_reads hreports v hordered hcorrect houtput
  have hprolog : (lib.events .prolog).foldlM (step lib) {} =
      .ok ⟨[{ name := "plist" }], none, 1⟩ := by
    rw [hreports.prolog]
    rfl
  have hbody := fun d => hreads { name := "plist" } [] 1 d (by simp) (by simp)
  rw [Wire.length_objects] at hbody
  rw [decode, if_neg hsize, append_assoc, flatMap_append, flatMap_append, List.foldlM_append,
    List.flatMap_singleton, ok_bind hprolog, List.foldlM_append]
  constructor
  · intro h
    obtain ⟨d, hd, -⟩ := of_bind_ok h
    obtain ⟨d, hd, -⟩ := of_bind_ok hd
    obtain ⟨⟨hlevels, hcount, hfits⟩, -⟩ := (hbody d).mp hd
    exact ⟨by simpa using hlevels, by omega, hfits⟩
  · rintro ⟨hlevels, hcount, hfits⟩
    rw [ok_bind ((hbody _).mpr ⟨⟨by simpa using hlevels, by omega, hfits⟩, rfl⟩),
      List.flatMap_singleton, hreports.closing]
    rfl

/-- The events of a text in which every ampersand begins `&amp;`. -/
def spans : List Char → List Event
  | '&' :: 'a' :: 'm' :: 'p' :: ';' :: rest => .generalRef "amp" :: spans rest
  | c :: rest => .text (.singleton c) :: spans rest
  | [] => []

/-- A library that escapes ampersands and writes a letter for each byte. -/
def plain : Library where
  escape text := .ofList (text.toList.flatMap fun c => if c = '&' then "&amp;".toList else [c])
  unescape text := if text = "&amp;" then some "&" else none
  encodeBase64 bytes := .ofList (bytes.map fun byte => .ofNat (65 + byte.toNat))
  decodeBase64 text := some (text.toList.map fun c => .ofNat (c.toNat - 65))
  events
    | .prolog => [.decl, .docType docType, .start "plist" true]
    | .opening tag => [.start tag false]
    | .closing _ => [.stop]
    | .empty tag => [.start tag false, .stop]
    | .content text => spans text.toList

lemma plain_reports : plain.Reports := ⟨rfl, fun _ => rfl, fun _ => rfl, fun _ => rfl⟩

/-- A request with a flag, a negative number, data and escaped text in an array. -/
def request : Value :=
  .dictionary [("@BBTicket", .boolean true), ("Board", .integer (-12)), ("Nonce", .data [1, 2]),
    ("Tags", .array [.string "R&D", .dictionary [("x", .boolean false)]])]

set_option maxRecDepth 8000 in
theorem xml_request_reads_back : ∃ document, encodeXml plain request = .ok document ∧
    decode plain (size document) (document.flatMap plain.events) = .ok request := by
  refine ⟨_, rfl, (xml_value_reads_back_iff plain_reports ?_ ?_ rfl).mpr ⟨by decide, by decide, ?_⟩⟩
  · refine ⟨?_, by simp [Value.Ordered, OrderedEntries, OrderedAll]⟩
    simp only [String.lt_iff_toList_lt]
    decide
  · simp [request, Value.objects, objectsEntries, objectsAll, Library.Correct]
    decide
  · simp [request, Value.objects, objectsEntries, objectsAll, EncodedObject.InRange]
    decide

set_option maxRecDepth 8000 in
/-- An integer above the range of the reader is written. -/
theorem large_integer_is_refused : ∃ document,
    (∀ object ∈ (Value.integer (2 ^ 64)).objects 0, plain.Correct object) ∧
    encodeXml plain (.integer (2 ^ 64)) = .ok document ∧
    decode plain (size document) (document.flatMap plain.events) = .error invalid := by
  refine ⟨_, ?_, rfl, ?_⟩
  · rw [Value.objects, List.forall_mem_singleton]
    rfl
  · rfl

end T1Bridge.Import.Plist
