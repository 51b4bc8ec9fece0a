import Mathlib.Data.Int.Notation
import Mathlib.Data.List.Basic

/-! # The virtual keyboard

`t1_touchbar_uinput.c`.  The device stands here with the results that its writes will have (when
they are used up, writes fail) and with the events that were delivered so far.  Each write delivers
whole events, so lengths are counted in events.

A key that is down for the reader of the events is in the record of held keys (`Known`). -/

namespace T1Bridge.TouchBar.Uinput

inductive WriteResult where
  | delivered (count : ℕ)
  | interrupted
  | failed

inductive InputEvent where
  | key (code : ℕ) (pressed : Bool)
  | report

inductive IoStatus where
  | ok
  | errorArgument
  | errorIo
  | errorProtocol

/-- The device, the keys it believes to be held, and what arrived. -/
structure Device where
  descriptor : ℤ
  held : BitVec 16
  writes : List WriteResult
  delivered : List InputEvent

/-- Escape and the twelve function keys. -/
def keyCodes : List ℕ := [1, 59, 60, 61, 62, 63, 64, 65, 66, 67, 68, 87, 88]

def keyCount : ℕ := keyCodes.length

def codeOf (key : ℕ) : ℕ := keyCodes.getD key 0

def validKey (key : ℕ) : Bool := key < keyCount

def mask (key : ℕ) : BitVec 16 := 1#16 <<< key

/-- The result, what was delivered, and the results of the writes to come. -/
def writeAll : List InputEvent → List WriteResult → Bool × List InputEvent × List WriteResult
  | [], writes => (true, [], writes)
  | _, [] => (false, [], [])
  | events, .interrupted :: writes => writeAll events writes
  | _, .failed :: writes | _, .delivered 0 :: writes => (false, [], writes)
  | events, .delivered (n + 1) :: writes =>
    let (done, delivered, writes) := writeAll (events.drop (n + 1)) writes
    (done, events.take (n + 1) ++ delivered, writes)

/-- The last event of the key is a press. -/
def pressed (code : ℕ) (events : List InputEvent) : Bool :=
  events.foldl (fun down event =>
    match event with
    | .key c p => if c = code then p else down
    | .report => down) false

namespace Device

variable (device : Device) (key : ℕ)

def emit (pressed : Bool) : Bool × Device :=
  let (done, delivered, writes) := writeAll [.key (codeOf key) pressed, .report] device.writes
  (done, { device with delivered := device.delivered ++ delivered, writes := writes })

def hold : Device := { device with held := device.held ||| mask key }

def unhold : Device :=
  { device with held := device.held &&& ~~~mask key }

def tap : IoStatus × Device :=
  if device.descriptor < 0 ∨ !validKey key then (.errorArgument, device)
  else if device.held &&& mask key ≠ 0 then (.errorProtocol, device)
  else
    match (device.hold key).emit key true with
    | (false, device) =>
      match device.emit key false with
      | (true, device) => (.errorIo, device.unhold key)
      | (false, device) => (.errorIo, device)
    | (true, device) =>
      match device.emit key false with
      | (false, device) => (.errorIo, device)
      | (true, device) => (.ok, device.unhold key)

variable (result : IoStatus × Device)

/-- One pass of the loop of `releaseAll`. -/
def release (index : ℕ) : IoStatus × Device :=
  if result.2.held &&& mask index = 0 then result
  else
    match result.2.emit index false with
    | (false, device) => (.errorIo, device)
    | (true, device) => (result.1, device.unhold index)

def releaseAll : IoStatus × Device :=
  if device.descriptor < 0 then (.errorArgument, device)
  else (List.range keyCount).foldl release (.ok, device)

/-- Every key that is down is recorded as held. -/
def Known : Prop :=
  ∀ code, pressed code device.delivered = true →
    ∃ key < keyCount, codeOf key = code ∧ device.held.getLsbD key = true

/-- And if nothing failed, none of the first keys is held. -/
def Freed (count : ℕ) : Prop :=
  result.2.Known ∧ (result.1 = .ok → ∀ key < count, result.2.held.getLsbD key = false)

end Device

inductive Call where
  | tap (key : ℕ)
  | releaseAll

def Call.run (device : Device) : Call → Device
  | tap key => (device.tap key).2
  | releaseAll => device.releaseAll.2

/-! ### What was delivered -/

lemma writeAll_delivered (events : List InputEvent) (writes : List WriteResult) :
    (writeAll events writes).2.1 <+: events ∧
      ((writeAll events writes).1 = true → (writeAll events writes).2.1 = events) := by
  fun_induction writeAll events writes with
  | case1 | case2 | case4 | case5 => simp
  | case3 events writes hne ih => exact ih
  | case6 events n writes hne done delivered rest heq ih =>
    rw [heq] at ih
    obtain ⟨⟨after, hafter⟩, hall⟩ := ih
    dsimp only at hafter hall ⊢
    refine ⟨⟨after, ?_⟩, fun hdone => ?_⟩
    · rw [List.append_assoc, hafter, List.take_append_drop]
    · rw [hall hdone, List.take_append_drop]

lemma getLsbD_mask (key index : ℕ) :
    (mask key).getLsbD index = (decide (index < 16) && decide (key = index)) := by
  rw [mask, ← BitVec.twoPow_eq, BitVec.getLsbD_twoPow]
  by_cases h : key = index <;> simp [h]

lemma getLsbD_of_and_mask {held : BitVec 16} {key : ℕ} (h : held &&& mask key = 0) :
    held.getLsbD key = false := by
  have hbit := congrArg (·.getLsbD key) h
  simp only [BitVec.getLsbD_and, getLsbD_mask] at hbit
  by_cases hwidth : key < 16
  · simpa [hwidth] using hbit
  · exact BitVec.getLsbD_of_ge _ _ (Nat.not_lt.mp hwidth)

/-- Of a key's two events a first part may arrive. -/
lemma pressed_append {part : List InputEvent} {key : ℕ} {down : Bool}
    (hpart : part <+: [.key key down, .report]) (events : List InputEvent) (code : ℕ) :
    pressed code (events ++ part) = pressed code events ∨
      code = key ∧ pressed code (events ++ part) = down := by
  simp only [List.prefix_cons_iff, List.prefix_nil] at hpart
  rcases hpart with rfl | ⟨_, rfl, rfl | ⟨_, rfl, rfl⟩⟩
  · simp
  all_goals by_cases hcode : key = code <;> simp [pressed, hcode]

namespace Device

variable {device after : Device} {key : ℕ} {down done : Bool}

lemma getLsbD_unhold (device : Device) (key index : ℕ) : (device.unhold key).held.getLsbD index =
    (device.held.getLsbD index && !decide (key = index)) := by
  simp only [unhold, BitVec.getLsbD_and, BitVec.getLsbD_not, getLsbD_mask]
  by_cases hwidth : index < 16
  · simp [hwidth]
  · simp [BitVec.getLsbD_of_ge _ _ (Nat.not_lt.mp hwidth)]

lemma emit_pressed (hemit : device.emit key down = (done, after)) : after.held = device.held ∧
    (∀ code, pressed code after.delivered = pressed code device.delivered ∨
      code = codeOf key ∧ pressed code after.delivered = down) ∧
    (done = true → pressed (codeOf key) after.delivered = down) := by
  cases hemit
  obtain ⟨hpart, hall⟩ := writeAll_delivered [.key (codeOf key) down, .report] device.writes
  refine ⟨rfl, pressed_append hpart device.delivered, fun hdone => ?_⟩
  dsimp only
  rw [hall hdone]
  simp [pressed]

variable (h : device.Known)

include h

lemma Known.emit_false (hemit : device.emit key false = (done, after)) : after.Known := by
  obtain ⟨hheld, hdown, -⟩ := emit_pressed hemit
  intro code hcode
  rw [hheld]
  rcases hdown code with heq | ⟨-, hup⟩
  · exact h code (heq ▸ hcode)
  · cases hup.symm.trans hcode

lemma Known.emit_true (hkey : key < keyCount) (hheld : device.held.getLsbD key = true)
    (hemit : device.emit key true = (done, after)) : after.Known := by
  obtain ⟨hsame, hdown, -⟩ := emit_pressed hemit
  intro code hcode
  rw [hsame]
  rcases hdown code with heq | ⟨rfl, -⟩
  · exact h code (heq ▸ hcode)
  · exact ⟨key, hkey, rfl, hheld⟩

/-- A key that is up need not be held. -/
lemma Known.released (hemit : device.emit key false = (true, after)) : (after.unhold key).Known := by
  have hup : pressed (codeOf key) after.delivered = false := (emit_pressed hemit).2.2 rfl
  intro code hdown
  obtain ⟨other, hother, rfl, hheld⟩ := h.emit_false hemit code hdown
  have hne : key ≠ other := by
    rintro rfl
    cases hup.symm.trans hdown
  exact ⟨other, hother, rfl, by simp [getLsbD_unhold, hheld, hne]⟩

lemma Known.tap (key : ℕ) : (device.tap key).2.Known := by
  unfold Device.tap
  split_ifs with hargument hheld
  · exact h
  · exact h
  have hkey : key < keyCount := by simpa [validKey] using (not_or.mp hargument).2
  have hbit : (device.hold key).held.getLsbD key = true := by
    have hwidth : key < 16 := Nat.lt_trans hkey (by decide)
    simp only [hold, BitVec.getLsbD_or, getLsbD_mask]
    simp [hwidth]
  have hhold : (device.hold key).Known := by
    intro code hdown
    obtain ⟨other, hother, hcode, hheld⟩ := h code hdown
    exact ⟨other, hother, hcode, by simp [hold, hheld]⟩
  split
  · next hemit =>
    have hpress := hhold.emit_true hkey hbit hemit
    split
    · next hrelease => exact hpress.released hrelease
    · next hrelease => exact hpress.emit_false hrelease
  · next hemit =>
    have hpress := hhold.emit_true hkey hbit hemit
    split
    · next hrelease => exact hpress.emit_false hrelease
    · next hrelease => exact hpress.released hrelease

omit h in
lemma Freed.release {result : IoStatus × Device} {index : ℕ} (hfreed : Freed result index) :
    Freed (release result index) (index + 1) := by
  obtain ⟨hknown, hfree⟩ := hfreed
  unfold Device.release
  split
  · next hzero =>
    refine ⟨hknown, fun hok key hkey => ?_⟩
    rcases Nat.lt_succ_iff_lt_or_eq.mp hkey with hlt | rfl
    · exact hfree hok key hlt
    · exact getLsbD_of_and_mask hzero
  split
  · next hemit => exact ⟨hknown.emit_false hemit, nofun⟩
  next hemit =>
  refine ⟨hknown.released hemit, fun hok key hkey => ?_⟩
  rw [getLsbD_unhold, (emit_pressed hemit).1]
  rcases Nat.lt_succ_iff_lt_or_eq.mp hkey with hlt | rfl
  · simp [hfree hok key hlt]
  · simp

lemma Known.freed (count : ℕ) : Freed ((List.range count).foldl release (.ok, device)) count := by
  induction count with
  | zero => exact ⟨h, by simp⟩
  | succ count ih =>
    rw [List.range_succ, List.foldl_append]
    exact Freed.release ih

lemma Known.releaseAll : device.releaseAll.2.Known ∧ (device.releaseAll.1 = .ok →
    ∀ code, pressed code device.releaseAll.2.delivered = false) := by
  unfold Device.releaseAll
  split_ifs
  · exact ⟨h, nofun⟩
  obtain ⟨hknown, hfree⟩ := h.freed keyCount
  refine ⟨hknown, fun hok code => Bool.eq_false_iff.mpr fun hdown => ?_⟩
  obtain ⟨key, hkey, -, hheld⟩ := hknown code hdown
  cases (hfree hok key hkey).symm.trans hheld

lemma Known.run (call : Call) : (call.run device).Known := by
  cases call with
  | tap key => exact h.tap key
  | releaseAll => exact h.releaseAll.1

lemma Known.history (calls : List Call) : (calls.foldl Call.run device).Known := by
  induction calls generalizing device with
  | nil => exact h
  | cons call calls ih => exact ih (h.run call)

end Device

/-- **Held keys.**  Whatever was tapped and released before and however the writes went, each key
that is down is recorded, also after a tap that fails; and a successful `releaseAll` leaves no key
down. -/
theorem pressed_keys_are_held (descriptor : ℤ) (writes : List WriteResult) (calls : List Call) :
    let device := calls.foldl Call.run ⟨descriptor, 0, writes, []⟩
    device.Known ∧ (∀ key, (device.tap key).2.Known) ∧
      (device.releaseAll.1 = .ok → ∀ code, pressed code device.releaseAll.2.delivered = false) := by
  have hnew : Device.Known ⟨descriptor, 0, writes, []⟩ := fun _ => nofun
  have hknown := hnew.history calls
  exact ⟨hknown, hknown.tap, hknown.releaseAll.2⟩

end T1Bridge.TouchBar.Uinput
